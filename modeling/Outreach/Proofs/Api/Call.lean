import Outreach.Proofs.Api.Form
import Outreach.Proofs.Backend.Grows
import Outreach.Proofs.Customer.Validation
import Outreach.Proofs.Rule.Literal
import Outreach.Proofs.Run.Invariant.Ties
import Outreach.Proofs.Service.Intake
import Outreach.Service.Campaigns

/-!
# What Calls of the Interface Leave Behind

A call that fails leaves the tables as they were: every check comes before the
first change, and what comes after it does not fail. This needs the campaign of
every record to be stored, or else a receipt would be settled and not counted.

A call that succeeds is answered with a success, unless its answer cannot travel.

## Main definitions

* `Action.Reads`: An action that leaves the tables as they were.
* `Api.Call.Travels`: What a caller gave and gets back can travel.
* `Api.Spares`: A refusal leaves the tables as they were.

## Theorems

* The instances of `Action.Reads` for services that change nothing.
* `Action.ends_of_reads`: What is known of its result besides.
* `Customers.spares_create`, `Orders.spares_ingest`, `Campaigns.spares_create`,
  `Receipts.spares_record`: The calls that change the tables.
* `Api.Call.ends_perform`: All calls.
-/

namespace Outreach

/-! ## What leaves the tables alone

Many actions look at the store, write to the log or compute something, and leave
every table as it was, whether they succeed or fail. Like the way in which an
action grows, this is inferred from how the action is put together. -/

namespace Action

variable {α β : Type}

/-- However an action ends, the tables are as they were. -/
class Reads (x : Action Memory α) : Prop where
  same : ∀ w, Ends x w (fun _ v => v.store.tables = w.store.tables)
    fun _ v => v.store.tables = w.store.tables

namespace Reads

instance (x : Action Memory Unit) [Quiet x] : Reads x := by
  refine ⟨fun w => ?_⟩
  rcases Quiet.ends (x := x) w with ⟨log, metrics, hx⟩
  rw [Ends, hx]

instance (a : α) : Reads (pure a : Action Memory α) := ⟨fun _ => rfl⟩

instance (f : Fault) : Reads (throw f : Action Memory α) := ⟨fun _ => rfl⟩

theorem bind {x : Action Memory α} {f : α → Action Memory β} (hx : Reads x)
    (hf : ∀ a, Reads (f a)) : Reads (x >>= f) := by
  refine ⟨fun w => Ends.bind (hx.same w) fun a v hv => ?_⟩
  exact ((hf a).same v).mono (fun _ _ h => h.trans hv) fun _ _ h => h.trans hv

instance (x : Action Memory α) (f : α → Action Memory β) [hx : Reads x] [hf : ∀ a, Reads (f a)] :
    Reads (x >>= f) := hx.bind hf

/-- By cases on how an action ended. -/
instance (x : Action Memory α) (f : Except Fault α → Action Memory β) [hx : Reads x.capture]
    [hok : ∀ a, Reads (f (.ok a))] [herror : ∀ e, Reads (f (.error e))] :
    Reads (x.capture >>= f) :=
  hx.bind fun
    | .ok a => hok a
    | .error e => herror e

/-- By cases on whether an action found something. -/
instance (x : Action Memory (Option α)) (f : Option α → Action Memory β) [hx : Reads x]
    [hnone : Reads (f none)] [hsome : ∀ a, Reads (f (some a))] : Reads (x >>= f) :=
  hx.bind fun
    | none => hnone
    | some a => hsome a

instance (p : Prop) [Decidable p] (x y : Action Memory α) [Reads x] [Reads y] :
    Reads (if p then x else y) := by
  by_cases h : p
  · rwa [if_pos h]
  · rwa [if_neg h]

instance (x : Action Memory α) [Reads x] : Reads x.capture :=
  ⟨fun w => (ends_capture x).2 (Reads.same (x := x) w)⟩

instance (e : Except Fault α) : Reads (ofExcept e : Action Memory α) := by
  cases e <;> exact ⟨fun _ => rfl⟩

instance : Reads (get : Action Memory (World Memory)) := ⟨fun _ => rfl⟩

instance : Reads (now : Action Memory Timestamp) :=
  inferInstanceAs (Reads (get >>= fun w : World Memory => ofExcept (inUtc w.clock)))

instance : Reads (freshId : Action Memory Uuid) := ⟨fun _ => rfl⟩

instance (x : Action Memory α) [Reads x] : Reads (unitOfWork x) := by
  rwa [Memory.unitOfWork_eq]

instance (f : Memory → Except Fault α) : Reads (Memory.ask f) :=
  inferInstanceAs (Reads (get >>= fun w : World Memory => ofExcept (f w.store)))

instance (rules : List Rule) (now : Option Timestamp) :
    Reads (compileAt rules now : Action Memory _) := by
  unfold compileAt
  exact inferInstance

instance (p : Predicate) : Reads (Audience.count p : Action Memory _) := by
  unfold Audience.count Audience.query
  exact Reads.bind (inferInstanceAs (Reads (capture (unitOfWork (Memory.ask _))))) fun
    | .ok _ => inferInstance
    | .error _ => inferInstance

instance (rules : List Rule) (now : Option Timestamp) :
    Reads (Audience.preview rules now : Action Memory _) := by
  unfold Audience.preview
  exact inferInstance

instance (args : NewCustomer) : Reads (Customers.draft args : Action Memory _) := by
  unfold Customers.draft
  exact inferInstance

instance (args : NewOrder) : Reads (Orders.draft args : Action Memory _) := by
  unfold Orders.draft
  exact inferInstance

instance (name message : Text) (rules : List Rule) (size : Nat) :
    Reads (Campaigns.draft name message rules size : Action Memory _) := by
  unfold Campaigns.draft
  exact inferInstance

instance (page : Page) : Reads (Customers.list page : Action Memory _) :=
  inferInstanceAs (Reads (unitOfWork (Memory.ask _)))

instance (page : Page) : Reads (Orders.list page : Action Memory _) :=
  inferInstanceAs (Reads (unitOfWork (Memory.ask _)))

instance (page : Page) : Reads (Campaigns.list page : Action Memory _) :=
  inferInstanceAs (Reads (unitOfWork (Memory.ask _)))

instance (id : Uuid) : Reads (Repository.campaignById id : Action Memory _) :=
  inferInstanceAs (Reads (Memory.ask _))

instance (id : Uuid) : Reads (Campaigns.find id : Action Memory _) := by
  unfold Campaigns.find
  exact inferInstance

instance (id : Uuid) (page : Page) (status : Option DeliveryStatus) :
    Reads (Repository.recordsOf id page status : Action Memory _) :=
  inferInstanceAs (Reads (Memory.ask _))

instance (id : Uuid) (page : Page) (status : Option DeliveryStatus) :
    Reads (Campaigns.deliveries id page status : Action Memory _) := by
  unfold Campaigns.deliveries
  exact inferInstance

instance : Reads (Repository.countCustomers : Action Memory _) :=
  inferInstanceAs (Reads (Memory.ask _))

instance : Reads (Repository.countOrders : Action Memory _) :=
  inferInstanceAs (Reads (Memory.ask _))

instance : Reads (Repository.countCampaigns : Action Memory _) :=
  inferInstanceAs (Reads (Memory.ask _))

instance (since : Timestamp) : Reads (Repository.countSince since : Action Memory _) :=
  inferInstanceAs (Reads (Memory.ask _))

instance (now : Option Timestamp) : Reads (dashboard now : Action Memory _) := by
  unfold dashboard
  refine .bind inferInstance fun clock => ?_
  split <;> exact inferInstance

end Reads

/-- What is known of the failures of an action that reads. -/
theorem ends_of_reads (x : Action Memory α) [Reads x] {w : World Memory} {P : α → Prop}
    (hP : Ends x w (fun a _ => P a) fun _ _ => True) :
    Ends x w (fun a v => v.store.tables = w.store.tables ∧ P a)
      fun _ v => v.store.tables = w.store.tables := by
  have hsame := Reads.same (x := x) w
  unfold Ends at hP hsame ⊢
  cases hx : x w with
  | ok a v =>
      rw [hx] at hP hsame
      exact ⟨hsame, hP⟩
  | error f v =>
      rw [hx] at hsame
      exact hsame

end Action

/-! ## What calls of the interface leave behind -/

open Text

variable {w : World Memory}

/-- The tables are as they were. -/
def World.Same (w v : World Memory) : Prop := v.store.tables = w.store.tables

/-- A customer is checked before it is stored, and stored before it is announced. -/
theorem Customers.spares_create (args : NewCustomer) :
    Action.Ends (create args) w
      (fun c _ => c.name = args.name.strip ∧ c.email = normalEmail args.email ∧
        c.phone = args.phone)
      fun _ v => w.Same v := by
  refine (ends_create args).mono ?_ fun _ _ h => h.1
  rintro c v ⟨now, -, hpasses, -⟩
  exact ⟨hpasses.name_eq, hpasses.email_eq, hpasses.phone_eq⟩

/-- An order is checked before it is stored. It came in at a time that has a form,
    so that applying it does not fail. -/
theorem Orders.spares_ingest (args : NewOrder) (hclock : w.clock.isAware = true) :
    Action.Ends (ingest args) w
      (fun o _ => o.customerEmail = normalEmail args.customerEmail ∧ o.items = args.items)
      fun _ v => w.Same v := by
  refine (ends_ingest args).mono ?_ ?_
  · rintro o v ⟨now, -, hpasses, -⟩
    rw [hpasses.same]
    exact ⟨rfl, rfl⟩
  · rintro f v (h | ⟨o, now, hnow, -, -, hfails⟩)
    · exact h.1
    -- The time on the clock was brought to universal time before.
    · cases hfails.symm.trans (inUtc_inUtc hclock hnow)

namespace Campaigns

/-- A campaign is checked before it is stored, its rules first of all. -/
theorem spares_create (name message : Text) (rules : List Rule) :
    Action.Ends (create name message rules) w
      (fun c _ => c.name = name.strip ∧ c.message = message ∧ c.rules = rules ∧
        c.outcomeCount = 0 ∧ ∀ r ∈ rules, r.value.Whole)
      fun _ v => w.Same v := by
  have hcompile := Action.ends_of_reads (compileAt rules none) (w := w)
    (P := fun _ => ∀ r ∈ rules, r.value.Whole) (by
    simp only [compileAt, Action.ends_bind, Action.ends_now, Action.ends_ofExcept, implies_true,
      and_true]
    exact fun now _ p hp => Rule.whole_of_compile hp)
  refine hcompile.bind ?_
  rintro p v ⟨hsame, hrules⟩
  have hcount := (Action.Reads.same (x := Audience.count p) v).mono
    (fun _ _ h => h.trans hsame) fun _ _ h => h.trans hsame
  refine hcount.bind fun size u husame => ?_
  have hdraft := Action.ends_of_reads (draft name message rules size) (w := u)
    (P := fun c => c.name = name.strip ∧ c.message = message ∧ c.rules = rules ∧
      c.outcomeCount = 0) (by
    simp only [draft, Action.ends_bind, Action.ends_ofExcept, Action.ends_freshId, Action.ends_now,
      Action.ends_pure, implies_true, and_true]
    exact fun _ _ _ _ => ⟨rfl, rfl, rfl, rfl⟩)
  refine (hdraft.mono (fun _ _ h => h) fun _ _ h => h.trans husame).bind ?_
  rintro c t ⟨-, hc⟩
  simp only [announce, Action.ends_bind, Memory.ends_unitOfWork, Repository.saveCampaign,
    Memory.ends_put, Action.ends_measure, Action.ends_note, Action.ends_pure]
  exact ⟨hc.1, hc.2.1, hc.2.2.1, hc.2.2.2, hrules⟩

end Campaigns

/-- Counting an outcome does not fail for a stored campaign. -/
theorem Memory.recordOutcome_of_ok (m : Memory) {id : Uuid} {c : Campaign}
    {outcome : DeliveryStatus} {now : Timestamp} {result : Campaign × CounterUpdate}
    (hc : lookUp Campaign.id id m.tables.campaigns = some c)
    (h : c.recordOutcome outcome now = .ok result) :
    m.recordOutcome id outcome now = .ok (m.putCampaign result.1, result.2) := by
  simp only [recordOutcome_eq, hc, h]
  rfl

namespace Receipts

/-- A receipt that settles a record is counted, since the campaign of the record
    is stored. So only a receipt that reports no outcome fails, or one for a record that
    is not known. -/
theorem spares_record (id : Uuid) (outcome : DeliveryStatus) (htied : w.ledger.Tied) :
    Action.Ends (record id outcome) w (fun _ _ => outcome.isOutcome = true) fun f v =>
      w.Same v ∧
        f = if outcome.isOutcome then .unknownRecord id else .notAReceipt outcome.text := by
  simp only [record, ensureOutcome, Action.ends_bind, Action.ends_ite, Action.ends_throw,
    Action.ends_pure, Memory.ends_unitOfWork]
  refine ⟨fun hnot => ⟨rfl, ?_⟩, fun hnot => ?_⟩
  · rw [Bool.not_eq_true'] at hnot
    rw [hnot]
    rfl
  rw [Bool.not_eq_true', Bool.not_eq_false] at hnot
  have happly : Action.Ends (apply id outcome) w (fun _ _ => True) fun f v =>
      w.Same v ∧ f = .unknownRecord id := by
    simp only [apply, find, settle, Action.ends_bind, Action.ends_capture, Repository.recordById,
      Memory.ends_ask_ok, Repository.settleRecord, Repository.recordOutcome]
    cases hr : lookUp DeliveryRecord.id id w.store.tables.records with
    | none => exact ⟨rfl, rfl⟩
    | some r =>
        by_cases hp : r.status = .pending
        · simp only [Action.ends_pure]
          rw [Memory.ends_change_of_ok
            (by rw [Memory.settleRecord_eq _ _ _ _ hnot, hr]; exact if_pos hp)]
          -- Settling a record leaves the campaigns alone.
          rcases (htied r (mem_of_lookUp hr)).campaign? with ⟨c, hc⟩
          cases ho : c.recordOutcome outcome w.time with
          | error f => exact absurd hnot (Campaign.not_isOutcome_of_recordOutcome ho)
          | ok result =>
              simp only [if_true, Action.ends_bind]
              rw [Memory.ends_change_of_ok (Memory.recordOutcome_of_ok (w.store.putRecord _) hc ho)]
              exact trivial
        · simp only [Action.ends_pure]
          rw [Memory.ends_change_of_ok
            (by rw [Memory.settleRecord_eq _ _ _ _ hnot, hr]; exact if_neg hp)]
          simp only [Action.ends_pure, Bool.false_eq_true, if_false, noteDuplicate,
            Action.ends_bind, Action.ends_measure, Action.ends_note]
  refine happly.mono (fun x v _ => ?_) fun f v h => ?_
  · rcases x with ⟨record, _ | update⟩
    · exact hnot
    · simp only [noteUpdate, Action.ends_bind, Action.ends_measure, Action.ends_ite,
        Action.ends_note, Action.ends_pure, hnot, implies_true, and_self]
  · rw [if_pos hnot]
    exact h

end Receipts

namespace Api

/-- The phone of a customer and the items of an order, which no form looks into,
    can travel. -/
def Call.Travels : Call → Prop
  | .createCustomer args => args.phone.Travels
  | .createOrder args => ∀ v ∈ args.items, v.Travels
  | _ => True

instance : DecidablePred Call.Travels
  | .createCustomer args => inferInstanceAs (Decidable args.phone.Travels)
  | .createOrder args => inferInstanceAs (Decidable (∀ v ∈ args.items, v.Travels))
  | .health | .ready | .preview _ | .createCampaign _ | .listCampaigns _ | .showCampaign _
  | .listDeliveries .. | .receive _ | .listCustomers _ | .listOrders _ | .totals =>
    inferInstanceAs (Decidable True)

/-- A refusal leaves the tables as they were and has nothing launched. -/
def Spares (w : World Memory) (o : Outcome) (v : World Memory) : Prop :=
  400 ≤ o.response.status → w.Same v ∧ o.launch = none

theorem spares_succeed {v : World Memory} {status : Nat} {answer : Json} {launch : Option Uuid}
    (hstatus : status < 400) (h : answer.Travels) :
    Spares w ⟨succeed status answer, launch⟩ v := by
  intro hfailed
  rw [succeed_of_travels h] at hfailed
  exact absurd hfailed (Nat.not_le.2 hstatus)

variable {α : Type}

/-- A call that only reads spares the tables whatever it answers. -/
theorem ends_of_reads (x : Action Memory α) [Action.Reads x] (answer : α → Outcome)
    (hlaunch : ∀ a, (answer a).launch = none) :
    Action.Ends (do return answer (← x)) w (Spares w) fun _ v => w.Same v := by
  refine (Action.Reads.same (x := x) w).bind fun a v hsame => ?_
  exact fun _ => ⟨hsame, hlaunch a⟩

/-- A call that changes the tables answers with something that can travel. -/
theorem ends_of_answer {x : Action Memory α} {P : α → World Memory → Prop} {answer : α → Json}
    (h : Action.Ends x w P fun _ v => w.Same v) (hanswer : ∀ a v, P a v → (answer a).Travels)
    {status : Nat} (hstatus : status < 400) :
    Action.Ends (do return Outcome.done (succeed status (answer (← x)))) w (Spares w)
      fun _ v => w.Same v := by
  refine h.bind fun a v ha => ?_
  exact spares_succeed hstatus (hanswer a v ha)

/-- A call that fails leaves the tables as they were, and so does one that is
    answered with a refusal. -/
theorem Call.ends_perform (app : App) (call : Call) (hclock : w.clock.isAware = true)
    (htied : w.ledger.Tied) (hwhole : call.Whole) (htravels : call.Travels) :
    Action.Ends (call.perform app) w (Spares w) fun _ v => w.Same v := by
  cases call with
  | health => exact fun _ => ⟨rfl, rfl⟩
  | ready => exact fun _ => ⟨rfl, rfl⟩
  | preview rules => exact ends_of_reads _ _ fun _ => rfl
  | listCampaigns page =>
      refine (Action.Reads.same (x := Campaigns.list page) w).bind fun cs v hsame => ?_
      simp only [Action.ends_bind, Action.ends_ofExcept, Action.ends_pure]
      exact ⟨fun _ _ _ => ⟨hsame, rfl⟩, fun _ _ => hsame⟩
  | showCampaign id =>
      refine (Action.Reads.same (x := Campaigns.find id) w).bind fun c v hsame => ?_
      simp only [Action.ends_bind, Action.ends_ofExcept, Action.ends_pure]
      exact ⟨fun _ _ _ => ⟨hsame, rfl⟩, fun _ _ => hsame⟩
  | listDeliveries id status page => exact ends_of_reads _ _ fun _ => rfl
  | listCustomers page => exact ends_of_reads _ _ fun _ => rfl
  | listOrders page => exact ends_of_reads _ _ fun _ => rfl
  | totals =>
      cases hfault : app.totalsFault with
      | none =>
          simp only [Call.perform, App.totals, hfault]
          exact ends_of_reads _ _ fun _ => rfl
      | some f =>
          simp only [Call.perform, App.totals, hfault]
          exact rfl
  | createCampaign args =>
      refine (Campaigns.spares_create args.name args.message args.rules).bind fun c v hc => ?_
      rcases hc with ⟨hname, hmessage, hrules, hcount, hvalues⟩
      have hrate : c.deliveryRate = .ok Double.zero := if_pos hcount
      simp only [Action.ends_bind, Action.ends_ofExcept, Action.ends_pure]
      refine ⟨fun answer hanswer => ?_, fun f hf => ?_⟩
      · refine spares_succeed (by decide) (travels_campaignAnswer ?_ ?_ ?_ hanswer)
        · rw [hname]
          exact hwhole.1.strip
        · rw [hmessage]
          exact hwhole.2
        · rw [hrules]
          exact hvalues
      -- The rate of a campaign without outcomes is zero.
      · rw [campaignAnswer, hrate] at hf
        cases hf
  | receive receipt =>
      have hspares := (Receipts.spares_record receipt.recordId receipt.status htied).mono
        (fun _ _ h => h) fun _ _ h => h.1
      exact ends_of_answer hspares (fun r _ _ => travels_receiptAnswer r) (by decide)
  | createCustomer args =>
      refine ends_of_answer (Customers.spares_create args) (fun c _ hc => ?_) (by decide)
      refine travels_customerAnswer ?_ ?_ ?_
      · rw [hc.1]
        exact hwhole.1.strip
      · rw [hc.2.1]
        exact whole_normalEmail hwhole.2
      · rw [hc.2.2]
        exact htravels
  | createOrder args =>
      refine ends_of_answer (Orders.spares_ingest args hclock) (fun o _ ho => ?_) (by decide)
      refine travels_orderAnswer ?_ ?_
      · rw [ho.1]
        exact whole_normalEmail hwhole
      · rw [ho.2]
        exact htravels

end Api

end Outreach
