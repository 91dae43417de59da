import Outreach.Proofs.Rule.Meaning
import Outreach.Proofs.Run.Alone
import Outreach.Proofs.Run.Board

/-!
# Visits Are Aware

A customer is stored after their last visit was brought to universal time, and an order
brings its time there before it becomes the last visit. So the last visits of stored
customers are aware whatever the clocks of a run showed, and rules can be matched with
them at any aware time.

Between two steps a call may hold a customer that it has checked and not stored yet.

## Main definitions

* `World.Dated`: The last visits of all stored customers are aware.
* `Run.Task.Dated`, `Run.System.Dated`: So are those of customers still to be stored.

## Theorems

* `Run.Task.advance_dated`: Every step keeps visits aware.
* `Run.System.Dated.move`, `Run.System.Dated.run`: So does a run.
* `Run.Request.dated_serve`: So does a call as a whole.
-/

namespace Outreach

/-- The last visits of all stored customers are aware. -/
def World.Dated (w : World Memory) : Prop :=
  ∀ c ∈ w.store.tables.customers, c.lastVisit.isAware = true

variable {w v : World Memory}

/-- Worlds with the same customers are alike in that. -/
theorem World.Dated.of_same (h : w.Dated)
    (hsame : v.store.tables.customers = w.store.tables.customers) : v.Dated := by
  rw [World.Dated, hsame]
  exact h

namespace Run.Task

/-- The last visit of a customer that a call is going to store is aware. -/
def Dated : Task → Prop
  | customer _ (.underway (.checking c)) => c.lastVisit.isAware = true
  | customer _ (.underway (.storing c)) => c.lastVisit.isAware = true
  | _ => True

end Run.Task

namespace Customers

open Run

theorem advance_dated (args : NewCustomer) (s : Stage) (hw : w.Dated)
    (hs : (Task.customer args (.underway s)).Dated) :
    Action.Ends (advance args s) w (fun p v => (Task.customer args p).Dated ∧ v.Dated)
      fun _ v => v.Dated := by
  cases s with
  | drafting =>
      simp only [advance, draft, Action.ends_bind, Action.ends_freshId, Action.ends_now,
        Action.ends_ofExcept, Action.ends_pure]
      exact ⟨fun _ _ => ⟨fun c hc => ⟨Customer.isAware_of_validated hc, hw⟩, fun _ _ => hw⟩,
        fun _ _ => hw⟩
  | checking c =>
      simp only [advance, ensureNew, Action.ends_bind, Action.ends_capture,
        Repository.customerByEmail, Memory.ends_ask_ok, Action.ends_ite, Action.ends_throw,
        Action.ends_pure]
      exact ⟨fun _ => hw, fun _ => ⟨hs, hw⟩⟩
  | storing c =>
      simp only [advance, announce, Action.ends_bind, Action.ends_capture, Action.ends_throw,
        Action.ends_note, Action.ends_pure, Repository.saveCustomer]
      by_cases h : (w.store.tables.customers.any fun d => d.email = c.email && d.id != c.id) = true
      · rw [Memory.ends_change_of_error (by rw [Memory.saveCustomer, if_pos h]; rfl)]
        exact hw
      · rw [Memory.ends_change_of_ok (by rw [Memory.saveCustomer, if_neg h]; rfl)]
        refine ⟨trivial, fun d hd => ?_⟩
        rcases mem_upsert hd with rfl | hold
        · exact hs
        · exact hw d hold

end Customers

namespace Orders

/-- A customer is changed by an order to one whose last visit is aware still. -/
theorem dated_applyOrder (email : Text) (amount : Double) (arrival : Timestamp) (hw : w.Dated) :
    World.Dated { w with store := (w.store.applyOrder email amount arrival).1 } := by
  intro c hc
  rcases Memory.mem_applyTo hc with hold | ⟨d, hd, -, rfl⟩
  · exact hw c hold
  · exact Customer.isAware_recordOrder (hw d hd) amount arrival

theorem advance_dated (args : NewOrder) (s : Stage) (hw : w.Dated) :
    Action.Ends (advance args s) w (fun _ v => v.Dated) fun _ v => v.Dated := by
  cases s with
  | drafting =>
      simp only [advance, draft, Action.ends_bind, Action.ends_freshId, Action.ends_now,
        Action.ends_ofExcept, Action.ends_pure]
      exact ⟨fun _ _ => ⟨fun _ _ => ⟨fun _ _ => hw, fun _ _ => hw⟩, fun _ _ => hw⟩, fun _ _ => hw⟩
  | storing o arrival =>
      simp only [advance, Action.ends_bind, Repository.saveOrder, Memory.ends_put,
        Action.ends_pure]
      exact hw
  | applying o stored arrival =>
      have hdated := dated_applyOrder stored.customerEmail stored.amount arrival hw
      simp only [advance, apply, Repository.applyOrder, Action.ends_bind, Action.ends_get,
        Action.ends_set, Action.ends_ofExcept, Action.ends_ite, Action.ends_note,
        Action.ends_pure]
      exact ⟨fun _ _ => ⟨fun _ => hdated, fun _ => hdated⟩, fun _ _ => hdated⟩

end Orders

/-! ## Calls that leave customers alone -/

variable {k k' : Ledger}

theorem Campaigns.Effect.customers_eq {s : Campaigns.Stage} {p : Progress Campaigns.Stage Campaign}
    (h : Campaigns.Effect k s k' p) : k'.tables.customers = k.tables.customers := by
  cases h <;> rfl

theorem Dispatch.Effect.customers_eq {args : NewDispatch} {s : Dispatch.Stage}
    {p : Progress Dispatch.Stage (List DeliveryRecord)} (h : Dispatch.Effect args k s k' p) :
    k'.tables.customers = k.tables.customers := by
  cases h <;> rfl

theorem Receipts.Effect.customers_eq {args : Receipt} {s : Receipts.Stage}
    {p : Progress Receipts.Stage ReceiptResult} (h : Receipts.Effect args k s k' p) :
    k'.tables.customers = k.tables.customers := by
  cases h <;> rfl

namespace Run

namespace Task

/-- A step of a call that has not ended keeps visits aware. -/
theorem advance_dated {t : Task} (hunderway : t.isUnderway = true) (ht : t.Dated) (hw : w.Dated) :
    (t.advance w).1.Dated ∧ (t.advance w).2.Dated := by
  cases t with
  | customer args p =>
      cases p with
      | underway s =>
          exact Progress.holds_after (R := fun p v => (customer args p).Dated ∧ v.Dated)
            ((Customers.advance_dated args s hw ht).mono (fun _ _ h => h) fun _ _ h => ⟨trivial, h⟩)
      | returned c => cases hunderway
      | raised f => cases hunderway
  | order args p =>
      cases p with
      | underway s =>
          exact ⟨trivial, Progress.holds_after (R := fun _ v => v.Dated)
            (Orders.advance_dated args s hw)⟩
      | returned o => cases hunderway
      | raised f => cases hunderway
  | campaign args p =>
      cases p with
      | underway s =>
          have heffect := Progress.holds_after
            (R := fun p v => Campaigns.Effect w.ledger s v.ledger p)
            (Campaigns.advance_effect args s)
          exact ⟨trivial, hw.of_same heffect.customers_eq⟩
      | returned c => cases hunderway
      | raised f => cases hunderway
  | dispatch args p =>
      cases p with
      | underway s =>
          have heffect := Progress.holds_after
            (R := fun p v => Dispatch.Effect args w.ledger s v.ledger p)
            (Dispatch.advance_effect s)
          exact ⟨trivial, hw.of_same heffect.customers_eq⟩
      | returned records => cases hunderway
      | raised f => cases hunderway
  | receipt args p =>
      cases p with
      | underway s =>
          have heffect := Progress.holds_after
            (R := fun p v => Receipts.Effect args w.ledger s v.ledger p)
            (Receipts.advance_effect s)
          exact ⟨trivial, hw.of_same heffect.customers_eq⟩
      | returned result => cases hunderway
      | raised f => cases hunderway

end Task

namespace System

/-- The last visits of all customers are aware, stored or still to be stored. -/
structure Dated (s : System) : Prop where
  world : s.world.Dated
  tasks : ∀ t ∈ s.tasks, t.Dated

theorem dated_start (h : w.Dated) : (start w).Dated :=
  ⟨h, fun _ ht => absurd ht List.not_mem_nil⟩

variable {s : System}

theorem Dated.move (inv : s.Dated) (m : Move) : (s.move m).Dated := by
  cases m with
  | issue r =>
      refine ⟨inv.world, fun t ht => ?_⟩
      rcases List.mem_append.1 ht with hold | hnew
      · exact inv.tasks t hold
      · rw [List.mem_singleton.1 hnew]
        cases r <;> exact trivial
  | turn c => exact ⟨inv.world, inv.tasks⟩
  | advance number =>
      cases ht : s.tasks[number]? with
      | none =>
          simp only [System.move, ht]
          exact inv
      | some t =>
          by_cases hunderway : t.isUnderway = true
          · have hmove : s.move (.advance number) = s.step number t := by
              simp only [System.move, ht, hunderway, if_true]
            have htask := inv.tasks t (List.mem_of_getElem? ht)
            have hstep := t.advance_dated hunderway htask inv.world
            rw [hmove]
            refine ⟨hstep.2, fun u hu => ?_⟩
            rcases List.mem_or_eq_of_mem_set hu with hold | hnew
            · exact inv.tasks u hold
            · rw [hnew]
              exact hstep.1
          · have hmove : s.move (.advance number) = s := by
              simp only [System.move, ht, hunderway, Bool.false_eq_true, if_false]
            rw [hmove]
            exact inv

theorem Dated.run (moves : List Move) : ∀ {s : System}, s.Dated → (s.run moves).Dated := by
  induction moves with
  | nil => exact fun h => h
  | cons m rest ih => exact fun h => ih (h.move m)

end System

/-- A call as a whole is one of the runs. -/
theorem Request.dated_serve (r : Request) (h : w.Dated) : (r.serve w).2.Dated := by
  rcases (System.start w).run_alone r with ⟨n, -, hworld⟩
  exact hworld ▸ ((System.dated_start h).run _).world

end Run

end Outreach
