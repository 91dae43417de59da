import Outreach.Proofs.Backend.Agree

/-!
# Services over Two Stores

Customers, orders, audiences, campaigns and totals over stores that mirror each other.
Every call comes to the same end over both of them, and they mirror each other again.
What a caller may give is limited by what the rows can hold.

## Main definitions

* `NewCustomer.Admissible`, `NewOrder.Admissible`: What both stores can take in.

## Theorems

* `Customers.agree_create`, `Orders.agree_ingest`: Customers and orders.
* `Audience.agree_count`, `Audience.agree_resolve`, `Audience.agree_preview`: Audiences.
* `Campaigns.agree_create`, `Campaigns.agree_find`: Campaigns.
* `agree_dashboard`: Totals.
-/

namespace Outreach

open Outreach.Action

variable {w : World Memory} {v : World Database}

/-! ## Customers and orders -/

/-- What can be taken in as a customer by both stores: texts that have bytes, a spend that
    is a number, and visits that a column can hold. -/
structure NewCustomer.Admissible (args : NewCustomer) : Prop where
  name : args.name.Whole
  email : args.email.Whole
  phone : args.phone.IsPhone
  spend : args.totalSpends.isNaN = false
  visits : fitsColumn args.visits = true

/-- What can be taken in as an order by both stores. -/
structure NewOrder.Admissible (args : NewOrder) : Prop where
  email : args.customerEmail.Whole
  amount : args.amount.isNaN = false

namespace Customers

theorem agree_draft (h : w.Mirrors v) {args : NewCustomer} (hargs : args.Admissible) :
    Agree (draft args) (draft args) w v
      (fun c c' w' v' => c' = c ∧ w'.Mirrors v' ∧ c.Storable ∧ fitsColumn c.visits = true ∧
        c.id ∉ w'.store.tables.ids ∧ w'.Drew c.id)
      fun _ => World.Mirrors := by
  unfold draft
  refine (agree_freshId h).bind fun id id' w₁ v₁ _ hid => ?_
  rcases hid with ⟨rfl, h₁, hdraws⟩
  refine (agree_now h₁ fun _ => h₁).bind fun now now' w₂ v₂ _ hnow => ?_
  rcases hnow with ⟨rfl, -, -, rfl, rfl⟩
  refine (agree_ofExcept fun _ => h₁).mono_ok fun c c' w₃ v₃ hc => ?_
  rcases hc with ⟨rfl, hc, rfl, rfl⟩
  have hpasses := Customer.validated_eq_ok_iff.1 hc
  have hstorable : c'.Storable := by
    refine hpasses.storable ?_ ?_ ?_ ?_
    · rw [hpasses.name_eq]
      exact hargs.name.strip
    · rw [hpasses.email_eq]
      exact whole_normalEmail hargs.email
    · rw [hpasses.phone_eq]
      exact hargs.phone
    · rw [hpasses.spend_eq]
      exact hargs.spend
  rw [hpasses.id_eq, hpasses.visits_eq]
  exact ⟨rfl, h₁, hstorable, hargs.visits, hdraws.notMem_ids h, hdraws.drew⟩

/-- Both stores know the email of a customer, or none of them does. -/
theorem agree_ensureNew (h : w.Untouched v) {c : Customer} (hc : c.Storable) :
    Agree (ensureNew c) (ensureNew c) w v (fun _ _ w' v' => w' = w ∧ v' = v)
      fun _ => World.Untouched := by
  unfold ensureNew
  have hfound : Agree (Repository.customerByEmail c.email) (Repository.customerByEmail c.email) w v
      (fun found found' w' v' => found' = found.map Customer.kept ∧ w' = w ∧ v' = v)
      fun _ => World.Untouched :=
    agree_ask rfl (h.mirrors.store.customerByEmail hc.wholeEmail) ⟨rfl, rfl, rfl⟩
  refine hfound.bind fun found found' w₁ v₁ _ hsame => ?_
  rcases hsame with ⟨rfl, rfl, rfl⟩
  cases found with
  | none => exact agree_pure ⟨rfl, rfl⟩
  | some known => exact agree_throw h

/-- Both stores take a customer in whose identifier is new, or none of them does. -/
theorem agree_store (h : w.Mirrors v) {c : Customer} (hc : c.Storable)
    (hvisits : fitsColumn c.visits = true) (hnew : c.id ∉ w.store.tables.ids)
    (hdrew : w.Drew c.id) :
    Agree (unitOfWork do ensureNew c; Repository.saveCustomer c)
      (unitOfWork do ensureNew c; Repository.saveCustomer c) w v
      (fun a b w' v' => w'.Mirrors v' ∧ b = a) fun _ => World.Mirrors := by
  refine agree_unitOfWork h fun v₁ h₁ => ?_
  refine (agree_ensureNew h₁ hc).bind fun _ _ w₂ v₂ _ hsame => ?_
  rcases hsame with ⟨rfl, rfl⟩
  have hids : c.id ∉ w₂.store.tables.customers.map Customer.id :=
    fun hid => hnew (Tables.mem_ids.2 (Or.inl hid))
  rcases h₁.mirrors.store.saveCustomer hc hvisits hids v₂.time with
    ⟨f, hm, hd⟩ | ⟨m, d, hm, hd, hstore, hids⟩
  · refine agree_refusal (e := f) h₁.mirrors.time ?_ ?_ h₁
    · rw [hm]
      rfl
    · rw [hd]
      rfl
  · have hmirrors := h₁.mirrors.added hstore hids hdrew
    refine agree_change (a := c) (b := c) h₁.mirrors.time ?_ ?_ ⟨hmirrors, rfl⟩
    · rw [hm]
      rfl
    · rw [hd]
      rfl

theorem agree_create (h : w.Mirrors v) {args : NewCustomer} (hargs : args.Admissible) :
    Agree (create args) (create args) w v (fun c c' w' v' => c' = c ∧ w'.Mirrors v')
      fun _ => World.Mirrors := by
  unfold create
  refine (agree_draft h hargs).bind fun c c' w₁ v₁ _ hc => ?_
  rcases hc with ⟨rfl, h₁, hc, hvisits, hnew, hdrew⟩
  refine (agree_store h₁ hc hvisits hnew hdrew).bind_capture (fun _ => inferInstance)
    (fun a b w₂ v₂ _ hstored => ?_) fun f w₂ v₂ h₂ => agree_throw h₂
  rcases hstored with ⟨h₂, rfl⟩
  refine (agree_quiet h₂).bind fun _ _ w₃ v₃ _ h₃ => ?_
  exact agree_pure ⟨rfl, h₃.1⟩

end Customers

namespace Orders

theorem agree_draft (h : w.Mirrors v) {args : NewOrder} (hargs : args.Admissible) :
    Agree (draft args) (draft args) w v
      (fun o o' w' v' => o' = o ∧ w'.Mirrors v' ∧ o.Storable ∧ o.id ∉ w'.store.tables.ids ∧
        w'.Drew o.id)
      fun _ => World.Mirrors := by
  unfold draft
  refine (agree_now h fun _ => h).bind fun now now' w₁ v₁ _ hnow => ?_
  rcases hnow with ⟨rfl, -, -, rfl, rfl⟩
  refine (agree_freshId h).bind fun id id' w₂ v₂ _ hid => ?_
  rcases hid with ⟨rfl, h₂, hdraws⟩
  refine (agree_ofExcept fun _ => h₂).mono_ok fun o o' w₃ v₃ ho => ?_
  rcases ho with ⟨rfl, ho, rfl, rfl⟩
  have hpasses := Order.validated_eq_ok_iff.1 ho
  have hstorable : o'.Storable := by
    refine hpasses.storable ?_ ?_
    · rw [hpasses.email_eq]
      exact whole_normalEmail hargs.email
    · rw [hpasses.amount_eq]
      exact hargs.amount
  rw [hpasses.id_eq]
  exact ⟨rfl, h₂, hstorable, hdraws.notMem_ids h, hdraws.drew⟩

/-- An order is applied to the same customer, or noted by both. -/
theorem agree_apply (h : w.Mirrors v) {o : Order} (ho : o.Storable) {arrival : Timestamp}
    (harrival : inUtc arrival = .ok arrival) {bad : Fault → World Memory → World Database → Prop} :
    Agree (apply o arrival) (apply o arrival) w v (fun _ _ w' v' => w'.Mirrors v') bad := by
  unfold apply
  rcases Mirror.applyOrder ho.number ho.positive harrival h.store ho.wholeEmail v.time with
    ⟨m, d, found, hm, hd, hstore, hids⟩
  have happlied : Agree (Repository.applyOrder o.customerEmail o.amount arrival)
      (Repository.applyOrder o.customerEmail o.amount arrival) w v
      (fun a b w' v' => b = a ∧ w'.Mirrors v') bad := by
    have hx : (Repository.applyOrder o.customerEmail o.amount arrival : Action Memory Bool) w =
        .ok found { w with store := m } := by
      let applied := w.store.applyOrder o.customerEmail o.amount arrival
      change (do set { w with store := applied.1 }; Action.ofExcept applied.2 :
        Action Memory Bool) w = _
      simp only [applied, hm]
      rfl
    exact agree_of_ok hx (Database.change_of_ok hd) ⟨rfl, h.changed hstore hids⟩
  refine happlied.bind fun a b w₁ v₁ _ h₁ => ?_
  rcases h₁ with ⟨rfl, h₁⟩
  exact (agree_quiet h₁).mono_ok fun _ _ _ _ h => h.1

/-- Both stores take an order whose identifier is new. -/
theorem agree_save (h : w.Mirrors v) {o : Order} (ho : o.Storable)
    (hnew : o.id ∉ w.store.tables.ids) (hdrew : w.Drew o.id)
    {bad : Fault → World Memory → World Database → Prop} :
    Agree (Repository.saveOrder o) (Repository.saveOrder o) w v
      (fun a b w' v' => a = o ∧ b = o ∧ w'.Mirrors v') bad := by
  have hids : o.id ∉ w.store.tables.orders.map Order.id :=
    fun hid => hnew (Tables.mem_ids.2 (Or.inr (Or.inl hid)))
  rcases h.store.saveOrder ho hids with ⟨d, hd, hstore, hids⟩
  have hy : (Repository.saveOrder o : Action Database Order) v = .ok o { v with store := d } := by
    refine Database.change_of_ok ?_
    rw [hd]
    rfl
  exact agree_of_ok rfl hy ⟨rfl, rfl, h.added hstore hids hdrew⟩

theorem agree_ingest (h : w.Mirrors v) {args : NewOrder} (hargs : args.Admissible) :
    Agree (ingest args) (ingest args) w v (fun o o' w' v' => o' = o ∧ w'.Mirrors v')
      fun _ => World.Mirrors := by
  unfold ingest
  refine (agree_now h fun _ => h).bind fun arrival arrival' w₁ v₁ _ harrival => ?_
  rcases harrival with ⟨rfl, -, harrival, rfl, rfl⟩
  refine (agree_draft h hargs).bind fun o o' w₁ v₁ _ ho => ?_
  rcases ho with ⟨rfl, h₁, ho, hnew, hdrew⟩
  have hbody : Agree (unitOfWork do let o ← Repository.saveOrder o'; apply o arrival')
      (unitOfWork do let o ← Repository.saveOrder o'; apply o arrival') w₁ v₁
      (fun _ _ w' v' => w'.Mirrors v' ∧ True) fun _ => World.Mirrors := by
    refine agree_unitOfWork h₁ fun v₂ h₂ => ?_
    refine (agree_save h₂.mirrors ho hnew hdrew).bind fun a b w₃ v₃ _ h₃ => ?_
    rcases h₃ with ⟨rfl, rfl, h₃⟩
    exact (agree_apply h₃ ho harrival).mono_ok fun _ _ _ _ h => ⟨h, trivial⟩
  exact hbody.bind fun _ _ w₂ v₂ _ h₂ => agree_pure ⟨rfl, h₂.1⟩

end Orders

/-! ## Audiences -/

theorem ahead_getD {now : Option Timestamp} (hnow : ∀ t ∈ now, t.ahead = some 0)
    {clock : Timestamp} (hclock : clock.ahead = some 0) : (now.getD clock).ahead = some 0 := by
  cases now with
  | none => exact hclock
  | some t => exact hnow t rfl

/-- The rules are read by the same clock. -/
theorem agree_compileAt (h : w.Mirrors v) (rules : List Rule) {now : Option Timestamp}
    (hnow : ∀ t ∈ now, t.ahead = some 0) {bad : Fault → World Memory → World Database → Prop}
    (hbad : ∀ f, bad f w v) :
    Agree (compileAt rules now) (compileAt rules now) w v
      (fun p p' w' v' => p' = p ∧ p.Portable ∧ w' = w ∧ v' = v) bad := by
  unfold compileAt
  refine (agree_now h hbad).bind fun clock clock' w₁ v₁ _ hclock => ?_
  rcases hclock with ⟨rfl, hahead, -, rfl, rfl⟩
  refine (agree_ofExcept hbad).mono_ok fun p p' w₂ v₂ hp => ?_
  exact ⟨hp.1, Rule.portable_compile (ahead_getD hnow hahead) hp.2.1, hp.2.2⟩

namespace Audience

variable {p : Predicate}

/-- An audience query that always has an answer. -/
theorem agree_query {α β : Type} {complaint : Text} {x : Action Memory α} {y : Action Database β}
    [Grows x] {q : α → β → World Memory → Prop} (h : w.Mirrors v)
    (hbody : ∀ v₁, w.Untouched v₁ → Agree x y w v₁ (fun a b w' v' => w'.Mirrors v' ∧ q a b w')
      fun _ _ _ => False) {bad : Fault → World Memory → World Database → Prop} :
    Agree (query complaint x) (query complaint y) w v (fun a b w' v' => w'.Mirrors v' ∧ q a b w')
      bad := by
  unfold query
  refine (agree_unitOfWork_total h hbody).bind_capture (fun _ => inferInstance)
    (fun a b w₁ v₁ _ h₁ => agree_pure h₁) fun _ _ _ => False.elim

/-- Both stores count the same audience. -/
theorem agree_count (h : w.Mirrors v) (hp : p.Portable)
    {bad : Fault → World Memory → World Database → Prop} :
    Agree (count p) (count p) w v (fun n n' w' v' => w'.Mirrors v' ∧ n' = n ∧
      n ≤ w'.store.tables.customers.length) bad := by
  refine agree_query h fun v₁ h₁ => ?_
  rcases h₁.mirrors.store.countMatching hp v₁.time with ⟨n, hm, hd, hle⟩
  exact agree_ask hm hd ⟨h₁.mirrors, rfl, hle⟩

/-- Both stores find the same audience. -/
theorem agree_resolve (h : w.Mirrors v) (hp : p.Portable)
    {bad : Fault → World Memory → World Database → Prop} :
    Agree (resolve p) (resolve p) w v (fun cs cs' w' v' => w'.Mirrors v' ∧
      cs' = cs.map Customer.kept ∧ (∀ c ∈ cs, c.Storable) ∧ w'.store = w.store) bad := by
  unfold resolve
  have hfound : Agree (query "Audience resolution failed: " (Repository.findMatching p))
      (query "Audience resolution failed: " (Repository.findMatching p)) w v
      (fun cs cs' w' v' => w'.Mirrors v' ∧ cs' = cs.map Customer.kept ∧ (∀ c ∈ cs, c.Storable) ∧
        w'.store = w.store) bad := by
    refine agree_query h fun v₁ h₁ => ?_
    rcases h₁.mirrors.store.findMatching hp v₁.time with ⟨cs, hm, hd, hcs⟩
    exact agree_ask hm hd ⟨h₁.mirrors, rfl, hcs, rfl⟩
  refine hfound.bind fun cs cs' w₁ v₁ _ h₁ => ?_
  rcases h₁ with ⟨h₁, rfl, hcs, hstore⟩
  refine (agree_quiet h₁).bind fun _ _ w₂ v₂ _ h₂ => ?_
  exact agree_pure ⟨h₂.1, rfl, hcs, h₂.2.1.trans hstore⟩

theorem agree_preview (h : w.Mirrors v) (rules : List Rule) {now : Option Timestamp}
    (hnow : ∀ t ∈ now, t.ahead = some 0) :
    Agree (preview rules now) (preview rules now) w v (fun n n' w' v' => n' = n ∧ w'.Mirrors v')
      fun _ => World.Mirrors := by
  unfold preview
  refine (agree_compileAt h rules hnow fun _ => h).bind fun p p' w₁ v₁ _ hp => ?_
  rcases hp with ⟨rfl, hp, rfl, rfl⟩
  exact (agree_count h hp).mono_ok fun _ _ _ _ h => ⟨h.2.1, h.1⟩

end Audience

/-! ## Campaigns -/

namespace Campaigns

variable {name message : Text} {size : Nat}

theorem agree_draft (h : w.Mirrors v) (name message : Text) (rules : List Rule) (size : Nat) :
    Agree (draft name message rules size) (draft name message rules size) w v
      (fun c c' w' v' => c' = c ∧ w'.Mirrors v' ∧
        (∃ now, c = Campaign.create c.id name message rules size now) ∧
        c.id ∉ w'.store.tables.ids ∧ w'.Drew c.id)
      fun _ => World.Mirrors := by
  unfold draft
  refine (agree_ofExcept fun _ => h).bind fun _ _ w₁ v₁ _ hchecked => ?_
  rcases hchecked with ⟨-, -, rfl, rfl⟩
  refine (agree_freshId h).bind fun id id' w₂ v₂ _ hid => ?_
  rcases hid with ⟨rfl, h₂, hdraws⟩
  refine (agree_now h₂ fun _ => h₂).bind fun now now' w₃ v₃ _ hnow => ?_
  rcases hnow with ⟨rfl, -, -, rfl, rfl⟩
  exact agree_pure ⟨rfl, h₂, ⟨now', rfl⟩, hdraws.notMem_ids h, hdraws.drew⟩

/-- The numbers of a new campaign fit if its size does. -/
theorem fits_create (id : Uuid) (name message : Text) (rules : List Rule) {size : Nat}
    (hsize : (size : Int) < wordLimit) (now : Timestamp) :
    let c := Campaign.create id name message rules size now
    [c.audienceSize, c.sentCount, c.failedCount].all fitsColumn = true := by
  intro c
  have hlimit : 0 < wordLimit := by decide
  have hfits : fitsColumn size = true := by
    rw [fitsColumn, Bool.and_eq_true, decide_eq_true_eq, decide_eq_true_eq]
    omega
  simp only [c, Campaign.create, List.all_cons, hfits, List.all_nil, Bool.and_true]
  decide

/-- Both stores take a campaign whose identifier is new. -/
theorem agree_save (h : w.Mirrors v) {c : Campaign} (hname : c.name.Whole)
    (hmessage : c.message.Whole)
    (hnumbers : [c.audienceSize, c.sentCount, c.failedCount].all fitsColumn = true)
    (hnew : c.id ∉ w.store.tables.ids) (hdrew : w.Drew c.id)
    {bad : Fault → World Memory → World Database → Prop} :
    Agree (Repository.saveCampaign c) (Repository.saveCampaign c) w v
      (fun a b w' v' => w'.Mirrors v' ∧ a = c ∧ b = c) bad := by
  have hids : c.id ∉ w.store.tables.campaigns.map Campaign.id :=
    fun hid => hnew (Tables.mem_ids.2 (Or.inr (Or.inr (Or.inl hid))))
  rcases h.store.saveCampaign hname hmessage hnumbers hids v.time with ⟨d, hd, hstore, hids⟩
  have hy : ∃ log, (Repository.saveCampaign c : Action Database Campaign) v =
      .ok c { v with store := d, log := log } := by
    refine ⟨⟨.debug, .campaignRows, "Saved campaign " ++ c.id.text, v.fields⟩ :: v.log, ?_⟩
    change EStateM.bind (EStateM.bind
      (Action.ofExcept (bind (v.store.saveCampaign c v.time) _)) _) _ v = _
    rw [hd]
    rfl
  rcases hy with ⟨log, hy⟩
  have hmirrors := h.added hstore hids hdrew
  exact agree_of_ok rfl hy ⟨{ hmirrors with }, rfl, rfl⟩

theorem agree_create (h : w.Mirrors v) (hname : name.Whole) (hmessage : message.Whole)
    (rules : List Rule) :
    Agree (create name message rules) (create name message rules) w v
      (fun c c' w' v' => c' = c ∧ w'.Mirrors v') fun _ => World.Mirrors := by
  unfold create
  have hnow : ∀ t ∈ (none : Option Timestamp), t.ahead = some 0 := nofun
  refine (agree_compileAt h rules hnow fun _ => h).bind fun p p' w₁ v₁ _ hp => ?_
  rcases hp with ⟨rfl, hp, rfl, rfl⟩
  refine (Audience.agree_count h hp).bind fun size size' w₁ v₁ hw₁ hsize => ?_
  rcases hsize with ⟨h₁, rfl, hle⟩
  refine (agree_draft h₁ name message rules size').bind fun c c' w₂ v₂ _ hc => ?_
  rcases hc with ⟨rfl, h₂, ⟨now, hc⟩, hnew, hdrew⟩
  -- There are no more recipients than customers, and these can be counted.
  have hsize : (size' : Int) < wordLimit := (Int.ofNat_le.2 hle).trans_lt hw₁.countable
  have hnumbers := fits_create c'.id name message rules hsize now
  have hwhole : c'.name.Whole ∧ c'.message.Whole := by
    rw [hc]
    exact ⟨hname.strip, hmessage⟩
  rw [← hc] at hnumbers
  have hsaved : Agree (unitOfWork (Repository.saveCampaign c'))
      (unitOfWork (Repository.saveCampaign c')) w₂ v₂ _ fun _ => World.Mirrors :=
    agree_unitOfWork_total h₂ fun v₃ h₃ =>
      agree_save h₃.mirrors hwhole.1 hwhole.2 hnumbers hnew hdrew
  refine hsaved.bind fun a b w₃ v₃ _ h₃ => ?_
  rcases h₃ with ⟨h₃, rfl, rfl⟩
  refine (agree_quiet h₃).bind fun _ _ w₄ v₄ _ h₄ => ?_
  exact agree_pure ⟨rfl, h₄.1⟩

/-- Both stores find a campaign of which the same lasts, or none of them knows it. -/
theorem agree_campaignById (h : w.Mirrors v) (id : Uuid)
    {bad : Fault → World Memory → World Database → Prop} :
    Agree (Repository.campaignById id) (Repository.campaignById id) w v
      (fun found found' w' v' => w' = w ∧ v' = v ∧
        Option.Rel (fun c row => row.lasting = c.lasting ∧ c.message.Whole) found found') bad := by
  rcases h.store.campaign id with ⟨hc, hrow⟩ | ⟨c, row, hc, hrow, hlasting⟩
  · refine agree_ask (a := none) (b := none) ?_ ?_ ⟨rfl, rfl, .none⟩
    · rw [hc]
    · rw [hrow]
      rfl
  · have hmessage := h.store.orderly.messages c (mem_of_lookUp hc)
    refine agree_ask (a := some c) (b := some row) ?_ ?_ ⟨rfl, rfl, .some ⟨hlasting, hmessage⟩⟩
    · rw [hc]
    · rw [hrow, Option.mapM_some, Database.loadedCampaign_eq]
      rfl

theorem agree_find (h : w.Mirrors v) (id : Uuid) :
    Agree (find id) (find id) w v
      (fun c row w' v' => w'.Mirrors v' ∧ row.lasting = c.lasting ∧ c.message.Whole)
      fun _ => World.Mirrors := by
  unfold find
  have hfound : Agree (unitOfWork (Repository.campaignById id))
      (unitOfWork (Repository.campaignById id)) w v
      (fun found found' w' v' => w'.Mirrors v' ∧
        Option.Rel (fun c row => row.lasting = c.lasting ∧ c.message.Whole) found found')
      fun _ => World.Mirrors := by
    refine agree_unitOfWork h fun v₁ h₁ => ?_
    refine (agree_campaignById h₁.mirrors id).mono_ok fun _ _ w₂ v₂ hfound => ?_
    rcases hfound with ⟨rfl, rfl, hfound⟩
    exact ⟨h₁.mirrors, hfound⟩
  refine hfound.bind_option fun found found' w₁ v₁ _ h₁ => ?_
  rcases h₁ with ⟨h₁, hfound⟩
  cases hfound with
  | none => exact agree_throw h₁
  | some hsame => exact agree_pure ⟨h₁, hsame⟩

end Campaigns

/-! ## Totals -/

/-- Both stores count as much of everything. -/
theorem agree_counts (h : w.Untouched v) {since : Timestamp} (hsince : since.ahead = some 0) :
    let counts : {σ : Type} → [Repository σ] → Action σ Totals := do
      let customers ← Repository.countCustomers
      let orders ← Repository.countOrders
      let campaigns ← Repository.countCampaigns
      let recent ← Repository.countSince since
      return ⟨customers, orders, campaigns, recent⟩
    Agree counts counts w v (fun totals totals' w' v' => w'.Mirrors v' ∧ totals' = totals)
      fun _ => World.Untouched := by
  intro counts
  have hstore := h.mirrors.store
  have hcustomers : Agree Repository.countCustomers Repository.countCustomers w v
      (fun n n' w' v' => n' = n ∧ w' = w ∧ v' = v) fun _ => World.Untouched := by
    refine agree_answer (a := w.store.tables.customers.length) ?_ ?_
    · rfl
    · rw [Database.customerRows, if_pos hstore.reachable, ← hstore.countCustomers]
      rfl
  refine hcustomers.bind fun customers customers' w₁ v₁ _ hsame => ?_
  rcases hsame with ⟨rfl, rfl, rfl⟩
  have horders : Agree Repository.countOrders Repository.countOrders w₁ v₁
      (fun n n' w' v' => n' = n ∧ w' = w₁ ∧ v' = v₁) fun _ => World.Untouched := by
    refine agree_answer (a := w₁.store.tables.orders.length) ?_ ?_
    · rfl
    · rw [hstore.countOrders]
  refine horders.bind fun orders orders' w₂ v₂ _ hsame => ?_
  rcases hsame with ⟨rfl, rfl, rfl⟩
  have hcampaigns : Agree Repository.countCampaigns Repository.countCampaigns w₂ v₂
      (fun n n' w' v' => n' = n ∧ w' = w₂ ∧ v' = v₂) fun _ => World.Untouched := by
    refine agree_answer (a := w₂.store.tables.campaigns.length) ?_ ?_
    · rfl
    · rw [hstore.countCampaigns]
  refine hcampaigns.bind fun campaigns campaigns' w₃ v₃ _ hsame => ?_
  rcases hsame with ⟨rfl, rfl, rfl⟩
  have hrecent : Agree (Repository.countSince since) (Repository.countSince since) w₃ v₃
      (fun n n' w' v' => n' = n ∧ w' = w₃ ∧ v' = v₃) fun _ => World.Untouched := by
    refine agree_answer (a := v₃.store.countSince since) ?_ ?_
    · exact hstore.countSince hsince
    · rfl
  refine hrecent.bind fun recent recent' w₄ v₄ _ hsame => ?_
  rcases hsame with ⟨rfl, rfl, rfl⟩
  exact agree_pure ⟨h.mirrors, rfl⟩

theorem agree_dashboard (h : w.Mirrors v) {now : Option Timestamp}
    (hnow : ∀ t ∈ now, t.ahead = some 0) :
    Agree (dashboard now) (dashboard now) w v
      (fun totals totals' w' v' => totals' = totals ∧ w'.Mirrors v') fun _ => World.Mirrors := by
  unfold dashboard
  refine (agree_now h fun _ => h).bind_of_grows (fun clock => ?_)
    fun clock clock' w₁ v₁ _ hclock => ?_
  · split <;> exact inferInstance
  rcases hclock with ⟨rfl, hahead, -, rfl, rfl⟩
  cases hsince : (now.getD clock').minusDays? recentDays with
  | none => exact agree_throw h
  | some since =>
      have hsinceUtc : since.ahead = some 0 := by
        rw [(Timestamp.instant_minusDays? hsince).2, ahead_getD hnow hahead]
      have hcounted := agree_unitOfWork h fun v₂ h₂ => agree_counts h₂ hsinceUtc
      exact hcounted.mono_ok fun _ _ _ _ h => ⟨h.2, h.1⟩

end Outreach
