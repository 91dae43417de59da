import Outreach.Proofs.Run.System
import Outreach.Proofs.Store.Memory

/-!
# What a Call Leads On To

Over the store in memory no call takes an identifier back that was drawn, and none
removes a customer. What is within bounds at the end of a run was therefore within
bounds at each of its points.

`Action.Grows` says so of an action, and is inferred from the way in which the action
is put together. Only its outcomes by cases have to be spelt out.

## Main definitions

* `World.Precedes`: One world comes before another.
* `World.Bounded`: Distinct identifiers, and customers that can be counted.
* `Action.Grows`: An action that leads on to later worlds.
* `Action.Quiet`: An action that changes log and metrics alone.

## Theorems

* `World.Bounded.of_precedes`: What comes before a world within bounds is within
  bounds.
* The instances of `Action.Grows` for the services.
-/

namespace Outreach

namespace World

/-! ## What grows along a run -/

/-- One world comes before another: of the same identifiers no more were drawn, and no
    more customers were stored. -/
structure Precedes (w v : World Memory) : Prop where
  supply : v.supply = w.supply
  drawn : w.drawn ≤ v.drawn
  customers : w.store.tables.customers.length ≤ v.store.tables.customers.length

/-- No identifier was drawn twice, and a column can hold the number of customers. -/
structure Bounded (w : World Memory) : Prop where
  distinct : w.DistinctIds
  countable : (w.store.tables.customers.length : Int) < wordLimit

variable {u v w : World Memory}

theorem Precedes.refl (w : World Memory) : w.Precedes w := ⟨rfl, Nat.le_refl _, Nat.le_refl _⟩

theorem Precedes.trans (h : u.Precedes v) (h' : v.Precedes w) : u.Precedes w :=
  ⟨h'.supply.trans h.supply, h.drawn.trans h'.drawn, h.customers.trans h'.customers⟩

/-- What comes before a world within bounds is within bounds. -/
theorem Bounded.of_precedes (hv : v.Bounded) (h : w.Precedes v) : w.Bounded := by
  refine ⟨fun i hi j hj hij => ?_, ?_⟩
  · refine hv.distinct i (hi.trans_le h.drawn) j (hj.trans_le h.drawn) ?_
    rwa [h.supply]
  · have hcount := h.customers
    have hroom := hv.countable
    omega

end World

namespace Action

variable {α β : Type}

/-- Nothing that was drawn or stored is taken back. -/
class Grows (x : Action Memory α) : Prop where
  precedes : ∀ w, Ends x w (fun _ v => w.Precedes v) fun _ v => w.Precedes v

/-- Only log and metrics are changed. -/
class Quiet {σ : Type} (x : Action σ Unit) : Prop where
  ends : ∀ w, ∃ log metrics, x w = .ok () { w with log := log, metrics := metrics }

section Quiet

variable {σ : Type}

instance : Quiet (pure () : Action σ Unit) := ⟨fun w => ⟨w.log, w.metrics, rfl⟩⟩

instance (level : Log.Level) (channel : Log.Channel) (message : Text) :
    Quiet (note level channel message : Action σ Unit) := ⟨fun w => ⟨_, w.metrics, rfl⟩⟩

instance (f : Metrics → Metrics) : Quiet (measure f : Action σ Unit) := ⟨fun w => ⟨w.log, _, rfl⟩⟩

instance (x : Action σ Unit) (y : Unit → Action σ Unit) [Quiet x] [Quiet (y ())] :
    Quiet (x >>= y) := by
  refine ⟨fun w => ?_⟩
  rcases Quiet.ends (x := x) w with ⟨log, metrics, hx⟩
  rcases Quiet.ends (x := y ()) { w with log := log, metrics := metrics } with ⟨log', metrics', hy⟩
  refine ⟨log', metrics', ?_⟩
  change EStateM.bind x y w = _
  rw [EStateM.bind, hx]
  exact hy

instance (f : World σ → Action σ Unit) [∀ w, Quiet (f w)] : Quiet (get >>= f) :=
  ⟨fun w => Quiet.ends (x := f w) w⟩

instance (p : Prop) [Decidable p] (x y : Action σ Unit) [Quiet x] [Quiet y] :
    Quiet (if p then x else y) := by
  by_cases h : p
  · rwa [if_pos h]
  · rwa [if_neg h]

end Quiet

namespace Grows

instance (x : Action Memory Unit) [Quiet x] : Grows x := by
  refine ⟨fun w => ?_⟩
  rcases Quiet.ends (x := x) w with ⟨log, metrics, hx⟩
  rw [Ends, hx]
  exact ⟨rfl, Nat.le_refl _, Nat.le_refl _⟩

instance (a : α) : Grows (pure a : Action Memory α) := ⟨World.Precedes.refl⟩

instance (f : Fault) : Grows (throw f : Action Memory α) := ⟨World.Precedes.refl⟩

theorem bind {x : Action Memory α} {f : α → Action Memory β} (hx : Grows x)
    (hf : ∀ a, Grows (f a)) : Grows (x >>= f) := by
  refine ⟨fun w => Ends.bind (hx.precedes w) fun a v hv => ?_⟩
  exact ((hf a).precedes v).mono (fun _ _ h => hv.trans h) fun _ _ h => hv.trans h

instance (x : Action Memory α) (f : α → Action Memory β) [hx : Grows x] [hf : ∀ a, Grows (f a)] :
    Grows (x >>= f) := hx.bind hf

/-- By cases on how an action ended. -/
instance (x : Action Memory α) (f : Except Fault α → Action Memory β) [hx : Grows x.capture]
    [hok : ∀ a, Grows (f (.ok a))] [herror : ∀ e, Grows (f (.error e))] :
    Grows (x.capture >>= f) :=
  hx.bind fun
    | .ok a => hok a
    | .error e => herror e

/-- By cases on whether an action found something. -/
instance (x : Action Memory (Option α)) (f : Option α → Action Memory β) [hx : Grows x]
    [hnone : Grows (f none)] [hsome : ∀ a, Grows (f (some a))] : Grows (x >>= f) :=
  hx.bind fun
    | none => hnone
    | some a => hsome a

instance (p : Prop) [Decidable p] (x y : Action Memory α) [Grows x] [Grows y] :
    Grows (if p then x else y) := by
  by_cases h : p
  · rwa [if_pos h]
  · rwa [if_neg h]

instance (x : Action Memory α) [Grows x] : Grows x.capture :=
  ⟨fun w => (ends_capture x).2 (Grows.precedes (x := x) w)⟩

instance (e : Except Fault α) : Grows (ofExcept e : Action Memory α) := by
  cases e <;> exact ⟨World.Precedes.refl⟩

instance : Grows (get : Action Memory (World Memory)) := ⟨World.Precedes.refl⟩

instance : Grows (now : Action Memory Timestamp) :=
  inferInstanceAs (Grows (get >>= fun w : World Memory => ofExcept (inUtc w.clock)))

instance : Grows (freshId : Action Memory Uuid) :=
  ⟨fun _ => ⟨rfl, Nat.le_succ _, Nat.le_refl _⟩⟩

instance (r : DeliveryRecord) (c : Customer) : Grows (send r c : Action Memory Unit) := by
  refine ⟨fun w => ?_⟩
  simp only [send, ends_bind, ends_get, ends_ite, ends_set, ends_throw]
  exact ⟨fun _ => ⟨rfl, Nat.le_refl _, Nat.le_refl _⟩, fun _ => World.Precedes.refl w⟩

instance (fields : Log.Fields) (x : Action Memory α) [Grows x] : Grows (within fields x) := by
  refine ⟨fun w => (ends_within fields x).2 ?_⟩
  have hx := Grows.precedes (x := x) { w with fields := w.fields.merge fields }
  exact hx.mono (fun _ _ h => ⟨h.supply, h.drawn, h.customers⟩)
    fun _ _ h => ⟨h.supply, h.drawn, h.customers⟩

instance (x : Action Memory α) [Grows x] : Grows (unitOfWork x) := by
  rwa [Memory.unitOfWork_eq]

instance (f : α → Action Memory β) [∀ a, Grows (f a)] (as : List α) : Grows (as.mapM f) := by
  induction as with
  | nil => exact inferInstanceAs (Grows (pure []))
  | cons a as ih =>
      rw [List.mapM_cons]
      exact inferInstance

instance (f : Memory → Except Fault α) : Grows (Memory.ask f) :=
  inferInstanceAs (Grows (get >>= fun w : World Memory => ofExcept (f w.store)))

/-- A change of the store that takes no customer away. -/
theorem change {f : Memory → Timestamp → Except Fault (Memory × α)}
    (h : ∀ m now r, f m now = .ok r →
      m.tables.customers.length ≤ r.1.tables.customers.length) : Grows (Memory.change f) := by
  refine ⟨fun w => ?_⟩
  cases hf : f w.store w.time with
  | error e =>
      rw [Memory.ends_change_of_error hf]
      exact World.Precedes.refl w
  | ok r =>
      rw [Memory.ends_change_of_ok hf]
      exact ⟨rfl, Nat.le_refl _, h _ _ _ hf⟩

/-- A change of the store that leaves the customers alone. -/
theorem aside {f : Memory → Timestamp → Except Fault (Memory × α)}
    (h : ∀ m now r, f m now = .ok r → r.1.tables.customers = m.tables.customers) :
    Grows (Memory.change f) :=
  change fun m now r hr => (congrArg List.length (h m now r hr)).ge

/-! ## The repository -/

instance (email : Text) : Grows (Repository.customerByEmail email : Action Memory _) :=
  inferInstanceAs (Grows (Memory.ask _))

instance (p : Predicate) : Grows (Repository.countMatching p : Action Memory _) :=
  inferInstanceAs (Grows (Memory.ask _))

instance (p : Predicate) : Grows (Repository.findMatching p : Action Memory _) :=
  inferInstanceAs (Grows (Memory.ask _))

instance (id : Uuid) : Grows (Repository.campaignById id : Action Memory _) :=
  inferInstanceAs (Grows (Memory.ask _))

instance (id : Uuid) : Grows (Repository.recordById id : Action Memory _) :=
  inferInstanceAs (Grows (Memory.ask _))

instance : Grows (Repository.countCustomers : Action Memory _) :=
  inferInstanceAs (Grows (Memory.ask _))

instance : Grows (Repository.countOrders : Action Memory _) :=
  inferInstanceAs (Grows (Memory.ask _))

instance : Grows (Repository.countCampaigns : Action Memory _) :=
  inferInstanceAs (Grows (Memory.ask _))

instance (since : Timestamp) : Grows (Repository.countSince since : Action Memory _) :=
  inferInstanceAs (Grows (Memory.ask _))

instance (c : Customer) : Grows (Repository.saveCustomer c : Action Memory _) := by
  refine change fun m now r hr => ?_
  simp only [Memory.saveCustomer] at hr
  split at hr
  · cases hr
  · cases hr
    exact length_le_length_upsert c m.tables.customers

instance (email : Text) (amount : Double) (time : Timestamp) :
    Grows (Repository.applyOrder email amount time : Action Memory _) := by
  refine ⟨fun w => ?_⟩
  have hlength := congrArg List.length
    (Memory.ids_applyTo (normalEmail email) amount time w.store.tables.customers)
  rw [List.length_map, List.length_map] at hlength
  simp only [Repository.applyOrder, ends_bind, ends_get, ends_set, ends_ofExcept]
  exact ⟨fun _ _ => ⟨rfl, Nat.le_refl _, hlength.ge⟩, fun _ _ => ⟨rfl, Nat.le_refl _, hlength.ge⟩⟩

instance (o : Order) : Grows (Repository.saveOrder o : Action Memory _) :=
  ⟨fun _ => ⟨rfl, Nat.le_refl _, Nat.le_refl _⟩⟩

instance (c : Campaign) : Grows (Repository.saveCampaign c : Action Memory _) :=
  ⟨fun _ => ⟨rfl, Nat.le_refl _, Nat.le_refl _⟩⟩

instance (rs : List DeliveryRecord) : Grows (Repository.saveRecords rs : Action Memory _) := by
  refine aside fun m now r hr => ?_
  rw [Memory.saveRecords_eq] at hr
  split at hr <;> cases hr
  rfl

instance (id : Uuid) : Grows (Repository.markSending id : Action Memory _) := by
  refine aside fun m now r hr => ?_
  rw [Memory.markSending_eq] at hr
  repeat' split at hr
  all_goals cases hr
  all_goals rfl

instance (id : Uuid) : Grows (Repository.releaseToPending id : Action Memory _) := by
  refine aside fun m now r hr => ?_
  rw [Memory.releaseToPending_eq] at hr
  repeat' split at hr
  all_goals cases hr
  all_goals rfl

instance (id : Uuid) (outcome : DeliveryStatus) :
    Grows (Repository.recordOutcome id outcome : Action Memory _) := by
  refine aside fun m now r hr => ?_
  rw [Memory.recordOutcome_eq] at hr
  split at hr
  · cases hr
  · rename_i c _
    cases hc : c.recordOutcome outcome now with
    | error f =>
        rw [hc] at hr
        cases hr
    | ok result =>
        rw [hc] at hr
        cases hr
        rfl

instance (id : Uuid) : Grows (Repository.completeIfExhausted id : Action Memory _) := by
  refine aside fun m now r hr => ?_
  rw [Memory.completeIfExhausted_eq] at hr
  split at hr <;> cases hr
  rfl

instance (id : Uuid) (outcome : DeliveryStatus) :
    Grows (Repository.settleRecord id outcome : Action Memory _) := by
  refine aside fun m now r hr => ?_
  by_cases ho : outcome.isOutcome
  · rw [Memory.settleRecord_eq m id outcome now ho] at hr
    repeat' split at hr
    all_goals cases hr
    all_goals rfl
  · rcases Memory.settleRecord_of_not_outcome m id now ho with ⟨f, hf⟩
    rw [hf] at hr
    cases hr

/-! ## The services -/

variable {α : Type}

instance (args : NewCustomer) : Grows (Customers.draft args : Action Memory _) := by
  unfold Customers.draft
  exact inferInstance

instance (c : Customer) : Grows (Customers.ensureNew c : Action Memory _) := by
  unfold Customers.ensureNew
  exact inferInstance

instance {σ : Type} (c : Customer) : Quiet (Customers.announce c : Action σ _) :=
  inferInstanceAs (Quiet (note _ _ _))

instance (args : NewCustomer) : Grows (Customers.create args : Action Memory _) := by
  unfold Customers.create
  exact inferInstance

instance (args : NewOrder) : Grows (Orders.draft args : Action Memory _) := by
  unfold Orders.draft
  exact inferInstance

instance (o : Order) (arrival : Timestamp) : Grows (Orders.apply o arrival : Action Memory _) := by
  unfold Orders.apply
  exact inferInstance

instance (args : NewOrder) : Grows (Orders.ingest args : Action Memory _) := by
  unfold Orders.ingest
  exact inferInstance

instance (rules : List Rule) (now : Option Timestamp) :
    Grows (compileAt rules now : Action Memory _) := by
  unfold compileAt
  exact inferInstance

instance (complaint : Text) (x : Action Memory α) [Grows x] :
    Grows (Audience.query complaint x) := by
  unfold Audience.query
  exact inferInstance

instance (p : Predicate) : Grows (Audience.count p : Action Memory _) :=
  inferInstanceAs (Grows (Audience.query _ _))

instance (p : Predicate) : Grows (Audience.resolve p : Action Memory _) := by
  unfold Audience.resolve
  exact inferInstance

instance (rules : List Rule) (now : Option Timestamp) :
    Grows (Audience.preview rules now : Action Memory _) := by
  unfold Audience.preview
  exact inferInstance

instance (name message : Text) (rules : List Rule) (size : Nat) :
    Grows (Campaigns.draft name message rules size : Action Memory _) := by
  unfold Campaigns.draft
  exact inferInstance

instance {σ : Type} (c : Campaign) (size : Nat) :
    Quiet (Campaigns.announce c size : Action σ _) := by
  unfold Campaigns.announce
  exact inferInstance

instance (name message : Text) (rules : List Rule) :
    Grows (Campaigns.create name message rules : Action Memory _) := by
  unfold Campaigns.create
  exact inferInstance

instance (id : Uuid) : Grows (Campaigns.find id : Action Memory _) := by
  unfold Campaigns.find
  exact inferInstance

instance (id : Uuid) (template : Text) (c : Customer) :
    Grows (Dispatch.draftOne id template c : Action Memory _) := by
  unfold Dispatch.draftOne
  exact inferInstance

instance (id : Uuid) (template : Text) (cs : List Customer) :
    Grows (Dispatch.draft id template cs : Action Memory _) :=
  inferInstanceAs (Grows (cs.mapM (Dispatch.draftOne id template)))

instance {σ : Type} (c : Campaign) (found : Nat) :
    Quiet (Dispatch.noteChange c found : Action σ _) := by
  unfold Dispatch.noteChange
  exact inferInstance

instance {σ : Type} (id : Uuid) (recipients : Nat) :
    Quiet (Dispatch.announce id recipients : Action σ _) := by
  unfold Dispatch.announce
  exact inferInstance

instance {σ : Type} (id : Uuid) (completed : Bool) :
    Quiet (Dispatch.noteCompletion id completed : Action σ _) := by
  unfold Dispatch.noteCompletion
  exact inferInstance

instance (pairs : List (DeliveryRecord × Customer)) :
    Grows (Dispatch.handOver pairs : Action Memory _) := by
  induction pairs with
  | nil => exact inferInstanceAs (Grows (pure ()))
  | cons pair rest ih =>
      unfold Dispatch.handOver
      exact inferInstance

instance (id : Uuid) : Grows (Dispatch.mark id : Action Memory _) := by
  unfold Dispatch.mark
  refine .bind inferInstance fun r => ?_
  cases r with
  | ok c => exact inferInstance
  | error f => cases f <;> exact inferInstance

instance (id : Uuid) : Grows (Dispatch.refuse id : Action Memory α) := by
  unfold Dispatch.refuse
  exact inferInstance

instance (id : Uuid) : Grows (Dispatch.claim id : Action Memory _) := by
  unfold Dispatch.claim
  exact inferInstance

instance (id : Uuid) : Grows (Dispatch.release id : Action Memory _) :=
  inferInstanceAs (Grows (unitOfWork _))

instance (id : Uuid) (p : Predicate) :
    Grows (Dispatch.resolveOrRelease id p : Action Memory _) := by
  unfold Dispatch.resolveOrRelease Dispatch.tryResolve
  refine .bind (.bind inferInstance fun r => ?_) fun r => ?_
  · cases r with
    | ok customers => exact inferInstance
    | error f => cases f <;> exact inferInstance
  · cases r <;> exact inferInstance

instance (id : Uuid) (records : List DeliveryRecord) :
    Grows (Dispatch.storeOrRelease id records : Action Memory _) := by
  unfold Dispatch.storeOrRelease Dispatch.tryStore
  refine .bind inferInstance fun r => ?_
  cases r <;> exact inferInstance

-- A dispatch takes more steps than other calls.
set_option synthInstance.maxSize 1000 in
instance (id : Uuid) (rules : List Rule) (template : Text) (now : Option Timestamp) :
    Grows (Dispatch.start id rules template now : Action Memory _) := by
  unfold Dispatch.start
  exact inferInstance

instance (id : Uuid) : Grows (Campaigns.launch id : Action Memory _) := by
  unfold Campaigns.launch
  exact inferInstance

instance (outcome : DeliveryStatus) : Grows (Receipts.ensureOutcome outcome : Action Memory _) := by
  unfold Receipts.ensureOutcome
  exact inferInstance

instance {σ : Type} (id : Uuid) : Quiet (Receipts.noteDuplicate id : Action σ _) := by
  unfold Receipts.noteDuplicate
  exact inferInstance

instance {σ : Type} (r : DeliveryRecord) (outcome : DeliveryStatus) (update : CounterUpdate) :
    Quiet (Receipts.noteUpdate r outcome update : Action σ _) := by
  unfold Receipts.noteUpdate
  exact inferInstance

instance (id : Uuid) : Grows (Receipts.find id : Action Memory _) := by
  unfold Receipts.find
  exact inferInstance

instance (id : Uuid) (outcome : DeliveryStatus) :
    Grows (Receipts.settle id outcome : Action Memory _) := by
  unfold Receipts.settle
  refine .bind inferInstance fun r => ?_
  cases r with
  | ok settled => exact inferInstance
  | error f => cases f <;> exact inferInstance

instance (id : Uuid) (outcome : DeliveryStatus) :
    Grows (Receipts.apply id outcome : Action Memory _) := by
  unfold Receipts.apply
  exact inferInstance

instance (id : Uuid) (outcome : DeliveryStatus) :
    Grows (Receipts.record id outcome : Action Memory _) := by
  unfold Receipts.record
  refine .bind inferInstance fun _ => .bind inferInstance fun r => ?_
  rcases r with ⟨record, _ | update⟩ <;> exact inferInstance

instance (now : Option Timestamp) : Grows (dashboard now : Action Memory _) := by
  unfold dashboard
  refine .bind inferInstance fun clock => ?_
  split <;> exact inferInstance

end Grows

end Action

end Outreach
