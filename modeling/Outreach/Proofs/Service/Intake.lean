import Outreach.Proofs.Intake.Keeper
import Outreach.Proofs.Store.Memory

/-!
# Taking In, from Beginning to End

A call that takes a customer in stores the customer it returns, or else leaves the tables
as they were. A call that takes an order in stores the order and applies it. Both look at
the clock first and then check what they were given, and a customer is refused as well if
the email is known.

An order comes in at a time that was brought to universal time. If that time had no such
form itself, the order would be stored and the call fail.

## Main definitions

* `Tables.enrol`, `Tables.enter`: A customer stored, and an order stored and applied.
* `NewCustomer.Fails`, `NewOrder.Fails`: The failures of calls that change nothing.

## Theorems

* `Customers.ends_create`, `Orders.ends_ingest`: How either call ends.
-/

namespace Outreach

/-- The tables with a customer stored. -/
def Tables.enrol (t : Tables Customer) (c : Customer) : Tables Customer :=
  { t with customers := upsert Customer.id c t.customers }

/-- The tables with an order stored, and applied as of the time at which it came in. -/
def Tables.enter (t : Tables Customer) (o : Order) (arrival : Timestamp) : Tables Customer :=
  { t with
    orders := upsert Order.id o t.orders
    customers := (Memory.applyTo (normalEmail o.customerEmail) o.amount arrival t.customers).1 }

variable {w : World Memory}

/-- The failures of a call that takes a customer in: the clock has no form in universal
    time, the customer fails at a check, or the email is known. -/
inductive NewCustomer.Fails (args : NewCustomer) (w : World Memory) : Fault → Prop
  | clock {f : Fault} (clock : inUtc w.clock = .error f) : Fails args w f
  | check {f : Fault} {now : Timestamp} (clock : inUtc w.clock = .ok now)
      (fails : (args.asked (w.supply w.drawn) now).Fails f) : Fails args w f
  | known {c : Customer} {now : Timestamp} (clock : inUtc w.clock = .ok now)
      (passes : (args.asked (w.supply w.drawn) now).Passes c) :
      Fails args w (.duplicateCustomer c.email)

/-- A customer is stored when the call returns. -/
theorem Customers.ends_create (args : NewCustomer) :
    Action.Ends (create args) w
      (fun c v => ∃ now, inUtc w.clock = .ok now ∧
        (args.asked (w.supply w.drawn) now).Passes c ∧ v.store.tables = w.store.tables.enrol c)
      fun f v => v.store.tables = w.store.tables ∧ args.Fails w f := by
  simp only [create, draft, ensureNew, announce, Action.ends_bind, Action.ends_freshId,
    Action.ends_now, Action.ends_ofExcept, Action.ends_capture, Memory.ends_unitOfWork,
    Repository.customerByEmail, Memory.ends_ask_ok, Action.ends_ite, Action.ends_throw,
    Action.ends_note, Action.ends_pure, Repository.saveCustomer, true_and]
  refine ⟨fun now hnow => ⟨fun c hc => ?_, fun f hf => ?_⟩, fun f hf => .clock hf⟩
  · have hpasses := Customer.validated_eq_ok_iff.1 hc
    refine ⟨fun _ => .known hnow hpasses, fun _ => ?_⟩
    by_cases h : (w.store.tables.customers.any fun d => d.email = c.email && d.id != c.id) = true
    · rw [Memory.ends_change_of_error (by rw [Memory.saveCustomer, if_pos h]; rfl)]
      exact ⟨rfl, .known hnow hpasses⟩
    · rw [Memory.ends_change_of_ok (by rw [Memory.saveCustomer, if_neg h]; rfl)]
      exact ⟨now, hnow, hpasses, rfl⟩
  · exact .check hnow (Customer.fails_of_validated hf)

/-- The failures of a call that takes an order in before it stores the order. -/
inductive NewOrder.Fails (args : NewOrder) (w : World Memory) : Fault → Prop
  | clock {f : Fault} (clock : inUtc w.clock = .error f) : Fails args w f
  | check {f : Fault} {now : Timestamp} (clock : inUtc w.clock = .ok now)
      (fails : (args.asked (w.supply w.drawn) now).Fails f) : Fails args w f

/-- An order is stored and applied, or nothing has changed. -/
theorem Orders.ends_ingest (args : NewOrder) :
    Action.Ends (ingest args) w
      (fun o v => ∃ now, inUtc w.clock = .ok now ∧
        (args.asked (w.supply w.drawn) now).Passes o ∧ v.store.tables = w.store.tables.enter o now)
      fun f v => v.store.tables = w.store.tables ∧ args.Fails w f ∨
        ∃ o now, inUtc w.clock = .ok now ∧ (args.asked (w.supply w.drawn) now).Passes o ∧
          v.store.tables = w.store.tables.enter o now ∧ inUtc now = .error f := by
  simp only [ingest, draft, apply, Action.ends_bind, Action.ends_freshId, Action.ends_now,
    Action.ends_ofExcept, Memory.ends_unitOfWork, Repository.saveOrder, Memory.ends_put,
    Repository.applyOrder, Action.ends_get, Action.ends_set, Action.ends_ite, Action.ends_note,
    Action.ends_pure, true_and]
  refine ⟨fun arrival harrival => ⟨fun now hnow => ⟨fun o ho => ?_, fun f hf => ?_⟩,
    fun f hf => ?_⟩, fun f hf => Or.inl (.clock hf)⟩
  · cases hnow.symm.trans harrival
    have hpasses := Order.validated_eq_ok_iff.1 ho
    have hentered : ∃ now, inUtc w.clock = .ok now ∧
        (args.asked (w.supply w.drawn) now).Passes o ∧
        w.store.tables.enter o arrival = w.store.tables.enter o now :=
      ⟨arrival, harrival, hpasses, rfl⟩
    exact ⟨fun _ _ => ⟨fun _ => hentered, fun _ => hentered⟩,
      fun f hf => Or.inr ⟨o, arrival, harrival, hpasses, rfl, Memory.applyTo_error hf⟩⟩
  · exact Or.inl (.check hnow (Order.fails_of_validated hf))
  · exact Or.inl (.clock hf)

end Outreach
