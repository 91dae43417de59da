import Outreach.Proofs.Backend.Dispatch
import Outreach.Proofs.Backend.Service

/-!
# Runs over Two Stores

The same calls, one after the other, over a store in memory and over one in a
database. Both stores are empty at first, can be reached throughout, and their worlds
show the same times and draw the same identifiers. Then every call is answered alike,
or fails alike, and in the end both stores hold the same.

One call keeps the stores mirrors of each other, so a run does. What a run is asked
for is that nothing in it is beyond one of the stores: texts without bytes, spends that
are no numbers, and numbers that do not fit a column.

## Main definitions

* `Backend.Call`, `Backend.Answer`: The calls and what they return.
* `Backend.Call.Admissible`: A call with nothing beyond one of the stores.
* `Backend.serveAll`: The outcomes of some calls, and the world they leave behind.
* `World.SameContents`: Two stores that hold the same.

## Theorems

* `Receipts.agree_apply`: What a receipt does to the stores.
* `Receipts.agree_record`: The call.
* `Backend.agree_perform`: One call.
* `Backend.stores_agree`: All calls, and what is stored in the end.
-/

namespace Outreach

section

/-! ## Receipts over two stores

A receipt is for a record that both stores know, or none of them does. In the first
case both settle it, and count it for its campaign, or both find that it was settled
before. A receipt that fails does so before anything was changed. -/

open Outreach.Action

variable {w : World Memory} {v : World Database} {outcome : DeliveryStatus}

namespace Receipts

theorem agree_ensureOutcome (h : w.Mirrors v) (outcome : DeliveryStatus) :
    Agree (ensureOutcome outcome) (ensureOutcome outcome) w v
      (fun _ _ w' v' => outcome.isOutcome ∧ w' = w ∧ v' = v) fun _ => World.Mirrors := by
  unfold ensureOutcome
  cases ho : outcome.isOutcome with
  | true => exact agree_pure ⟨rfl, rfl, rfl⟩
  | false => exact agree_throw h

/-- Both stores know a record of which the same lasts, or none of them does. -/
theorem agree_find (h : w.Untouched v) (id : Uuid) :
    Agree (find id) (find id) w v
      (fun r row w' v' => w'.Untouched v' ∧ row.lasting = r.lasting ∧
        r.campaignId ∈ w'.store.tables.campaigns.map Campaign.id)
      fun _ => World.Untouched := by
  unfold find
  have hfound : Agree (Repository.recordById id) (Repository.recordById id) w v
      (fun found found' w' v' => w' = w ∧ v' = v ∧
        Option.Rel (fun r row => row.lasting = r.lasting ∧ r ∈ w.store.tables.records) found found')
      fun _ => World.Untouched := by
    refine agree_ask rfl rfl ⟨rfl, rfl, ?_⟩
    rcases h.mirrors.store.record id with ⟨hr, hrow⟩ | ⟨r, row, hr, hrow, hlasting⟩
    · rw [hr, hrow]
      exact .none
    · rw [hr, hrow]
      exact .some ⟨hlasting, mem_of_lookUp hr⟩
  refine hfound.bind_option fun found found' w₁ v₁ _ hfound => ?_
  rcases hfound with ⟨rfl, rfl, hrecord⟩
  cases hrecord with
  | none =>
      refine (agree_quiet h.mirrors).bind fun _ _ w₂ v₂ _ h₂ => ?_
      refine (agree_quiet h₂.1).bind fun _ _ w₃ v₃ _ h₃ => ?_
      have hstore : v₃.store = v₁.store := h₃.2.2.trans h₂.2.2
      exact agree_throw ⟨h₃.1, hstore ▸ h.saved⟩
  | some hsame => exact agree_pure ⟨h, hsame.1, h.mirrors.store.orderly.known _ hsame.2⟩

/-- Both stores settle a record, find it settled, or do not know it. -/
theorem agree_settle (h : w.Untouched v) (id : Uuid) (ho : outcome.isOutcome) :
    Agree (settle id outcome) (settle id outcome) w v
      (fun settled settled' w' v' => settled' = settled ∧ w'.Mirrors v' ∧
        w'.store.tables.campaigns = w.store.tables.campaigns)
      fun _ => World.Untouched := by
  unfold settle
  have hsettled : Agree (Repository.settleRecord id outcome)
      (Repository.settleRecord id outcome) w v
      (fun settled settled' w' v' => settled' = settled ∧ w'.Mirrors v' ∧
        w'.store.tables.campaigns = w.store.tables.campaigns)
      fun f w' v' => f = .entityNotFound .deliveryRecord id ∧ w'.Untouched v' := by
    have htime := h.mirrors.time
    rcases h.mirrors.store.settleRecord ho v.time with
      ⟨hm, hd⟩ | ⟨m, d, settled, hm, hd, hstore, hids, hcampaigns⟩
    · exact agree_refusal htime hm hd ⟨rfl, h⟩
    · exact agree_change htime hm hd ⟨rfl, h.mirrors.changed hstore hids, hcampaigns⟩
  refine hsettled.bind_capture (fun f => by cases f <;> exact inferInstance)
    (fun settled settled' w₁ v₁ _ h₁ => agree_pure h₁) fun f w₁ v₁ hf => ?_
  rcases hf with ⟨rfl, h₁⟩
  exact agree_throw h₁

/-- Both stores count an outcome for a campaign that they know. -/
theorem agree_recordOutcome (h : w.Mirrors v) {id : Uuid}
    (hknown : id ∈ w.store.tables.campaigns.map Campaign.id) (ho : outcome.isOutcome)
    {bad : Fault → World Memory → World Database → Prop} :
    Agree (Repository.recordOutcome id outcome) (Repository.recordOutcome id outcome) w v
      (fun update update' w' v' => update' = update ∧ w'.Mirrors v') bad := by
  rcases h.store.recordOutcome hknown ho v.time with ⟨m, d, update, hm, hd, hstore, hids⟩
  exact agree_change h.time hm hd ⟨rfl, h.changed hstore hids⟩

/-- What a receipt does to the stores. -/
theorem agree_apply (h : w.Untouched v) (id : Uuid) (ho : outcome.isOutcome) :
    Agree (apply id outcome) (apply id outcome) w v
      (fun a b w' v' => w'.Mirrors v' ∧ b.1.campaignId = a.1.campaignId ∧ b.2 = a.2)
      fun _ => World.Untouched := by
  unfold apply
  refine (agree_find h id).bind fun r row w₁ v₁ _ hfound => ?_
  rcases hfound with ⟨h₁, hlasting, hknown⟩
  have hcampaign : row.campaignId = r.campaignId := (congrArg DeliveryRecord.campaignId hlasting :)
  refine (agree_settle h₁ id ho).bind fun settled settled' w₂ v₂ _ hsettled => ?_
  rcases hsettled with ⟨rfl, h₂, hcampaigns⟩
  cases settled' with
  | true =>
      rw [if_pos rfl, if_pos rfl, hcampaign]
      have hknown₂ : r.campaignId ∈ w₂.store.tables.campaigns.map Campaign.id := by
        rwa [hcampaigns]
      refine (agree_recordOutcome h₂ hknown₂ ho).bind fun update update' w₃ v₃ _ hupdate => ?_
      exact agree_pure ⟨hupdate.2, hcampaign, congrArg some hupdate.1⟩
  | false =>
      rw [if_neg Bool.false_ne_true, if_neg Bool.false_ne_true]
      refine (agree_quiet h₂).bind fun _ _ w₃ v₃ _ h₃ => ?_
      exact agree_pure ⟨h₃.1, hcampaign, rfl⟩

theorem agree_record (h : w.Mirrors v) (id : Uuid) (outcome : DeliveryStatus) :
    Agree (record id outcome) (record id outcome) w v
      (fun result result' w' v' => result' = result ∧ w'.Mirrors v') fun _ => World.Mirrors := by
  unfold record
  refine (agree_ensureOutcome h outcome).bind_of_grows (fun _ => .bind inferInstance fun a => ?_)
    fun _ _ w₁ v₁ _ ho => ?_
  · rcases a with ⟨r, _ | update⟩ <;> exact inferInstance
  rcases ho with ⟨ho, rfl, rfl⟩
  have happlied := agree_unitOfWork h fun v₁ h₁ => agree_apply h₁ id ho
  refine happlied.bind_of_grows (fun a => ?_) fun a b w₂ v₂ _ happlied => ?_
  · rcases a with ⟨r, _ | update⟩ <;> exact inferInstance
  rcases a with ⟨r, updated⟩
  rcases b with ⟨row, updated'⟩
  rcases happlied with ⟨h₂, hcampaign, hupdated⟩
  change row.campaignId = r.campaignId at hcampaign
  change updated' = updated at hupdated
  subst hupdated
  cases updated' with
  | some update =>
      refine (agree_quiet h₂).bind fun _ _ w₃ v₃ _ h₃ => agree_pure ⟨?_, h₃.1⟩
      rw [hcampaign]
  | none =>
      refine agree_pure ⟨?_, h₂⟩
      rw [hcampaign]

end Receipts

end

/-! ## The contents of two stores -/

/-- The same customer, with spends that are the same number. -/
structure Customer.Same (c d : Customer) : Prop where
  spend : d.totalSpends.eq c.totalSpends = true
  others : d = { c with totalSpends := d.totalSpends }

/-- The rows of a database, as they are loaded, are what a store in memory holds. Times
    of change and the zones of creation times are not compared. -/
structure World.SameContents (w : World Memory) (v : World Database) : Prop where
  customers : ∃ cs, v.store.tables.customers.mapM Database.loaded = .ok cs ∧
    List.Forall₂ Customer.Same w.store.tables.customers cs
  orders : ∃ os, v.store.tables.orders.mapM Order.validated = .ok os ∧
    os = w.store.tables.orders.map fun o => { o with createdAt := o.createdAt.naive }
  campaigns : ∃ cs, v.store.tables.campaigns.mapM Database.loadedCampaign = .ok cs ∧
    cs.map Campaign.lasting = w.store.tables.campaigns.map Campaign.lasting
  records : v.store.tables.records.map DeliveryRecord.lasting =
    w.store.tables.records.map DeliveryRecord.lasting

theorem Customer.same_kept {c : Customer} (h : c.Storable) : c.Same c.kept :=
  ⟨Double.eq_storedDouble h.number, rfl⟩

/-- Stores that mirror each other hold the same. -/
theorem World.Mirrors.sameContents {w : World Memory} {v : World Database} (h : w.Mirrors v) :
    w.SameContents v := by
  have hkept := h.store.kept
  have horderly := h.store.orderly
  refine ⟨⟨_, Mirror.mapM_loaded hkept.customers horderly.customers, ?_⟩, ⟨_, ?_, rfl⟩,
    ⟨_, mapM_eq_map (g := fun row => row) fun row _ => Database.loadedCampaign_eq row, ?_⟩,
    hkept.records⟩
  · rw [List.forall₂_map_right_iff, List.forall₂_same]
    exact fun c hc => Customer.same_kept (horderly.customers c hc)
  · rw [hkept.orders, List.mapM_map]
    exact mapM_eq_map fun o ho => Order.validated_orderRow (horderly.orders o ho)
  · rw [List.map_id']
    exact hkept.campaigns

namespace Backend

open Outreach.Action

/-! ## Calls -/

/-- A call of a service. -/
inductive Call
  | createCustomer (args : NewCustomer)
  | ingestOrder (args : NewOrder)
  | preview (rules : List Rule) (now : Option Timestamp)
  | createCampaign (args : NewCampaign)
  | launch (id : Uuid)
  | start (args : NewDispatch)
  | recordReceipt (args : Receipt)
  | dashboard (now : Option Timestamp)

/-- What a call returns. -/
inductive Answer
  | customer (c : Customer)
  | order (o : Order)
  | size (n : Nat)
  | campaign (c : Campaign)
  | records (rs : List DeliveryRecord)
  | receipt (r : ReceiptResult)
  | totals (t : Totals)

/-- What is done for a call. -/
def Call.perform {σ : Type} [Repository σ] : Call → Action σ Answer
  | createCustomer args => do return .customer (← Customers.create args)
  | ingestOrder args => do return .order (← Orders.ingest args)
  | preview rules now => do return .size (← Audience.preview rules now)
  | createCampaign args => do
    return .campaign (← Campaigns.create args.name args.message args.rules)
  | launch id => do return .records (← Campaigns.launch id)
  | start args => do
    return .records (← Dispatch.start args.campaignId args.rules args.template args.now)
  | recordReceipt args => do return .receipt (← Receipts.record args.recordId args.outcome)
  | dashboard now => do return .totals (← Outreach.dashboard now)

/-- A call with nothing beyond one of the stores: its texts have bytes, its numbers fit,
    and the time it is about is in universal time. -/
def Call.Admissible : Call → Prop
  | createCustomer args => args.Admissible
  | ingestOrder args => args.Admissible
  | createCampaign args => args.name.Whole ∧ args.message.Whole
  | start args => args.template.Whole ∧ ∀ t ∈ args.now, t.ahead = some 0
  | preview _ now | dashboard now => ∀ t ∈ now, t.ahead = some 0
  | launch _ | recordReceipt _ => True

instance (call : Call) : Grows (call.perform : Action Memory Answer) := by
  cases call <;> exact inferInstanceAs (Grows (_ >>= _))

variable {w : World Memory} {v : World Database}

/-- A call comes to the same end over both stores. -/
theorem agree_perform (h : w.Mirrors v) {call : Call} (hcall : call.Admissible) :
    Agree call.perform call.perform w v (fun a b w' v' => b = a ∧ w'.Mirrors v')
      fun _ => World.Mirrors := by
  cases call with
  | createCustomer args =>
      refine (Customers.agree_create h hcall).bind fun c c' w' v' _ hc => ?_
      exact agree_pure ⟨congrArg Answer.customer hc.1, hc.2⟩
  | ingestOrder args =>
      refine (Orders.agree_ingest h hcall).bind fun o o' w' v' _ ho => ?_
      exact agree_pure ⟨congrArg Answer.order ho.1, ho.2⟩
  | preview rules now =>
      refine (Audience.agree_preview h rules hcall).bind fun n n' w' v' _ hn => ?_
      exact agree_pure ⟨congrArg Answer.size hn.1, hn.2⟩
  | createCampaign args =>
      refine (Campaigns.agree_create h hcall.1 hcall.2 args.rules).bind fun c c' w' v' _ hc => ?_
      exact agree_pure ⟨congrArg Answer.campaign hc.1, hc.2⟩
  | launch id =>
      refine (Campaigns.agree_launch h id).bind fun rs rs' w' v' _ hrs => ?_
      exact agree_pure ⟨congrArg Answer.records hrs.1, hrs.2⟩
  | start args =>
      refine (Dispatch.agree_start h args.campaignId args.rules hcall.1 hcall.2).bind
        fun rs rs' w' v' _ hrs => ?_
      exact agree_pure ⟨congrArg Answer.records hrs.1, hrs.2⟩
  | recordReceipt args =>
      refine (Receipts.agree_record h args.recordId args.outcome).bind fun r r' w' v' _ hr => ?_
      exact agree_pure ⟨congrArg Answer.receipt hr.1, hr.2⟩
  | dashboard now =>
      refine (agree_dashboard h hcall).bind fun t t' w' v' _ ht => ?_
      exact agree_pure ⟨congrArg Answer.totals ht.1, ht.2⟩

/-! ## Runs -/

/-- The outcome of a call at a time, and the world it leaves behind. -/
def serve {σ : Type} [Repository σ] (x : Timestamp × Call) (w : World σ) :
    Except Fault Answer × World σ :=
  match x.2.perform { w with clock := x.1 } with
  | .ok a v => (.ok a, v)
  | .error f v => (.error f, v)

/-- The outcomes of some calls, one after the other, and the world they leave behind. -/
def serveAll {σ : Type} [Repository σ] :
    List (Timestamp × Call) → World σ → List (Except Fault Answer) × World σ
  | [], w => ([], w)
  | x :: rest, w =>
    let (outcome, v) := serve x w
    let (outcomes, u) := serveAll rest v
    (outcome :: outcomes, u)

theorem precedes_serve (x : Timestamp × Call) (w : World Memory) : w.Precedes (serve x w).2 := by
  have hgrows := Grows.precedes (x := x.2.perform) { w with clock := x.1 }
  unfold Ends at hgrows
  unfold serve
  cases hx : x.2.perform { w with clock := x.1 } <;> rw [hx] at hgrows <;>
    exact ⟨hgrows.supply, hgrows.drawn, hgrows.customers⟩

theorem precedes_serveAll (calls : List (Timestamp × Call)) (w : World Memory) :
    w.Precedes (serveAll calls w).2 := by
  induction calls generalizing w with
  | nil => exact .refl w
  | cons x rest ih => exact (precedes_serve x w).trans (ih (serve x w).2)

/-- One call is answered alike and keeps the stores mirrors of each other. -/
theorem serve_agree (h : w.Mirrors v) {x : Timestamp × Call} (hclock : x.1.ahead = some 0)
    (hx : x.2.Admissible) (hbounded : (serve x w).2.Bounded) :
    (serve x v).1 = (serve x w).1 ∧ (serve x w).2.Mirrors (serve x v).2 := by
  have hset : World.Mirrors { w with clock := x.1 } { v with clock := x.1 } :=
    { h with clock := rfl, utc := hclock }
  have hagree := agree_perform hset hx
  unfold Agree at hagree
  unfold serve at hbounded ⊢
  cases hw : x.2.perform { w with clock := x.1 } with
  | ok a w' =>
      rw [Ends, hw] at hagree
      rw [hw] at hbounded
      rcases exists_of_ends (hagree hbounded) with ⟨b, v', hv, hsame, hmirrors⟩
      rw [hv]
      exact ⟨congrArg Except.ok hsame, hmirrors⟩
  | error f w' =>
      rw [Ends, hw] at hagree
      rw [hw] at hbounded
      rcases failed_of_ends (hagree hbounded) with ⟨g, v', hv, hsame, hmirrors⟩
      rw [hv]
      exact ⟨congrArg Except.error hsame, hmirrors⟩

/-- A run is answered alike and keeps the stores mirrors of each other. -/
theorem serveAll_agree {calls : List (Timestamp × Call)} (h : w.Mirrors v)
    (hcalls : ∀ x ∈ calls, x.1.ahead = some 0 ∧ x.2.Admissible)
    (hbounded : (serveAll calls w).2.Bounded) :
    (serveAll calls v).1 = (serveAll calls w).1 ∧
      (serveAll calls w).2.Mirrors (serveAll calls v).2 := by
  induction calls generalizing w v with
  | nil => exact ⟨rfl, h⟩
  | cons x rest ih =>
      rcases hcalls x List.mem_cons_self with ⟨hclock, hx⟩
      have hfirst := hbounded.of_precedes (precedes_serveAll rest (serve x w).2)
      rcases serve_agree h hclock hx hfirst with ⟨houtcome, h₁⟩
      rcases ih h₁ (fun y hy => hcalls y (List.mem_cons_of_mem _ hy)) hbounded with ⟨hrest, h₂⟩
      exact ⟨congrArg₂ List.cons houtcome hrest, h₂⟩

/-- Noon on a day in summer. -/
def noon : Timestamp := ⟨⟨2024, 6, 1⟩, 12 * 3600 * 1000000, some 0⟩

/-- A run: a customer is taken in, but not a second one with the same email. An order
    brings the customer into the audience of a campaign, which is launched once, and whose
    message is reported as sent and then once more as failed. -/
def sample : List (Timestamp × Call) :=
  let rules : List Rule := [⟨.totalSpends, .greater, "1", .and⟩]
  [.createCustomer ⟨"Ann", "ann@example.org", .null, Double.zero, 0, none⟩,
    .createCustomer ⟨"Bea", "Ann@example.org", .null, Double.zero, 0, none⟩,
    .ingestOrder ⟨"ann@example.org", Double.ofInt 5, none, []⟩,
    .createCampaign ⟨"Spring", "Hello", rules⟩,
    .launch (Uuid.ofNat 3), .launch (Uuid.ofNat 3),
    .recordReceipt ⟨Uuid.ofNat 4, .sent⟩,
    .recordReceipt ⟨Uuid.ofNat 4, .failed⟩].map fun call => (noon, call)

end Backend

end Outreach
