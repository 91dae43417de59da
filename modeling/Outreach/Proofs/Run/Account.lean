import Mathlib.Algebra.BigOperators.Group.List.Basic
import Outreach.Proofs.Run.Effect.Metrics
import Outreach.Proofs.Run.Invariant.Failures

/-!
# Accounts of a Run

A metric is raised by one step of a call, and what it counts is stored by another, or by
the same. What is to be balanced is therefore the metric, what the calls on their way owe
it, and what is stored. A step moves amounts between the three and changes nothing else,
so the balance that a run began with is the one that it ends with.

## Main definitions

* `Run.Task.Expected`: A call that has not failed in a way nobody was told of.
* `Run.Task.Passage`: A step of a call, with what is known of it on a reachable board.
* `Run.Account`: What a metric counts, what calls owe it, and what is stored.
* `Run.Account.Even`: A step that leaves the balance alone.

## Theorems

* `Run.System.passage`: Every step of a run is a passage.
* `Run.System.holds_of_run`: What every step preserves holds at the end of a run.
* `Run.Account.balance_of_run`: So does a balance that every step leaves alone.
-/

namespace Outreach

namespace Run

namespace Task

/-- A call that has not ended in a failure that its caller is not told to expect. -/
def Expected : Task → Prop
  | dispatch _ (.raised f) => Dispatch.documents f = true
  | _ => True

instance : DecidablePred Expected := fun t =>
  match t with
  | dispatch _ (.raised f) => inferInstanceAs (Decidable (Dispatch.documents f = true))
  | dispatch _ (.underway _) | dispatch _ (.returned _) | customer .. | order .. | campaign ..
  | receipt .. => inferInstanceAs (Decidable True)

theorem expected_of_isUnderway {t : Task} (h : t.isUnderway = true) : t.Expected := by
  cases t with
  | dispatch args p => cases p with
    | raised f => cases h
    | _ => exact trivial
  | _ => exact trivial

/-- A step of a call, with what is known of it on a reachable board. -/
structure Passage (k : Ledger) (t : Task) (k' : Ledger) (t' : Task) : Prop where
  effect : t.Effect k k' t'
  apart : (t.reserved ++ k.identifiers).Nodup
  sound : t.Sound k
  claimed : ∀ id ∈ t.claims, k.Started id
  concerned : ∀ id ∈ t.concerns, k.Started id
  leaves : t.Leaves k' t'

end Task

namespace System

variable {s : System} {n : Nat} {t : Task}

/-- Every step of a run is a passage. -/
theorem passage (h : s.board.Reachable) (task : s.tasks[n]? = some t)
    (hunderway : t.isUnderway = true) :
    Task.Passage s.world.ledger t (t.advance s.world).2.ledger (t.advance s.world).1 where
  effect := Task.advance_effect hunderway
  apart := nodup_of_task task h.identified.apart
  sound := h.sound t (List.mem_of_getElem? task)
  claimed := fun _ hid => h.claims.valid _ (List.mem_append_left _
    (List.mem_flatMap.2 ⟨t, List.mem_of_getElem? task, hid⟩))
  concerned := fun _ hid => h.started (h.mem_dispatched_of_concerns task hid)
  leaves := leaves_advance h task

/-- No call has failed in a way that its caller is not told to expect. -/
def AsExpected (s : System) : Prop := ∀ t ∈ s.tasks, t.Expected

instance (s : System) : Decidable s.AsExpected :=
  inferInstanceAs (Decidable (∀ t ∈ s.tasks, t.Expected))

/-- A call that has failed stays on the list. -/
theorem asExpected_of_step (task : s.tasks[n]? = some t) (hunderway : t.isUnderway = true)
    (h : (s.step n t).AsExpected) : s.AsExpected := by
  intro u hu
  rcases List.getElem?_of_mem hu with ⟨i, hi⟩
  by_cases hin : n = i
  · subst hin
    rw [task, Option.some.injEq] at hi
    exact hi ▸ Task.expected_of_isUnderway hunderway
  · have hstays : (s.step n t).tasks[i]? = some u := (List.getElem?_set_ne hin).trans hi
    exact h u (List.mem_of_getElem? hstays)

theorem asExpected_of_move {m : Move} (h : (s.move m).AsExpected) : s.AsExpected := by
  cases m with
  | issue r => exact fun t ht => h t (List.mem_append_left _ ht)
  | turn c => exact h
  | advance n =>
      rcases s.move_advance n with heq | ⟨t, task, hunderway, heq⟩
      · exact heq ▸ h
      · exact asExpected_of_step task hunderway (heq ▸ h)

theorem asExpected_of_run (moves : List Move) :
    ∀ {s : System}, (s.run moves).AsExpected → s.AsExpected := by
  induction moves with
  | nil => exact id
  | cons m rest ih => exact fun h => asExpected_of_move (ih h)

/-- What is preserved when a call is issued, when the conditions turn, and by every step
    that ends as expected, holds at the end of a run in which all did. -/
theorem holds_of_run {P : System → Prop}
    (issued : ∀ {s : System} (r : Request), P s → P { s with tasks := s.tasks ++ [r.task] })
    (turned : ∀ {s : System} (c : Conditions), P s → P { s with world := c.over s.world })
    (stepped : ∀ {s : System} {n : Nat} {t : Task}, s.tasks[n]? = some t →
      t.Passage s.world.ledger (t.advance s.world).2.ledger (t.advance s.world).1 →
      (t.advance s.world).1.Expected → P s → P (s.step n t))
    (moves : List Move) : ∀ {s : System}, s.board.Reachable →
      (s.run moves).world.DistinctIds → (s.run moves).AsExpected → P s → P (s.run moves) := by
  induction moves with
  | nil => exact fun _ _ _ hP => hP
  | cons m rest ih =>
      intro s hs hdistinct hexpected hP
      refine ih (reachable_move hs (distinctIds_of_run rest hdistinct)) hdistinct hexpected ?_
      have hmove : (s.move m).AsExpected := asExpected_of_run rest hexpected
      cases m with
      | issue r => exact issued r hP
      | turn c => exact turned c hP
      | advance n =>
          rcases s.move_advance n with heq | ⟨t, task, hunderway, heq⟩
          · exact heq.symm ▸ hP
          · rw [heq] at hmove ⊢
            have hmem : (t.advance s.world).1 ∈ (s.step n t).tasks :=
              List.mem_set (List.getElem?_eq_some_iff.1 task).1 _
            exact stepped task (passage hs task hunderway) (hmove _ hmem) hP

end System

/-- What a metric counts, what the calls on their way owe it, and what of it is stored. -/
structure Account where
  counted : Metrics → Int
  owed : Task → Int
  stock : Ledger → Int

namespace Account

/-- What is counted or owed and not stored. -/
def balance (a : Account) (s : System) : Int :=
  a.counted s.world.metrics + (s.tasks.map a.owed).sum - a.stock s.world.ledger

/-- A step that leaves the balance alone. -/
def Even (a : Account) (m : Metrics) (k : Ledger) (t : Task) (k' : Ledger) (t' : Task) : Prop :=
  a.counted (t.measured t' m) + a.owed t' - a.stock k' = a.counted m + a.owed t - a.stock k

/-- An account to which new calls owe nothing, and with which every step that ends as
    expected is even. -/
structure Kept (a : Account) : Prop where
  issued : ∀ r : Request, a.owed r.task = 0
  even : ∀ {k k' : Ledger} {t t' : Task} (m : Metrics), t.Passage k k' t' → t'.Expected →
    a.Even m k t k' t'

variable {a : Account}

theorem balance_step {s : System} {n : Nat} {t : Task} (task : s.tasks[n]? = some t)
    (h : a.Even s.world.metrics s.world.ledger t (t.advance s.world).2.ledger
      (t.advance s.world).1) : a.balance (s.step n t) = a.balance s := by
  rcases List.getElem?_eq_some_iff.1 task with ⟨hn, ht⟩
  have hmap : n < (s.tasks.map a.owed).length := by rwa [List.length_map]
  have htasks : ((s.step n t).tasks.map a.owed).sum =
      (s.tasks.map a.owed).sum - a.owed t + a.owed (t.advance s.world).1 := by
    change ((s.tasks.set n (t.advance s.world).1).map a.owed).sum = _
    rw [List.map_set, List.sum_set', dif_pos hmap, List.getElem_map, ht]
    omega
  have hmetrics : (s.step n t).world.metrics =
      t.measured (t.advance s.world).1 s.world.metrics := t.metrics_advance
  have hledger : (s.step n t).world.ledger = (t.advance s.world).2.ledger := rfl
  rw [Even] at h
  rw [balance, balance, htasks, hmetrics, hledger]
  omega

/-- The balance that a run began with is the one that it ends with. -/
theorem Kept.balance_of_run (h : a.Kept) (moves : List Move) {s : System}
    (hs : s.board.Reachable) (hdistinct : (s.run moves).world.DistinctIds)
    (hexpected : (s.run moves).AsExpected) : a.balance (s.run moves) = a.balance s := by
  refine System.holds_of_run (P := fun v => a.balance v = a.balance s) (fun r hP => ?_)
    (fun c hP => hP) (fun task hpassage hexpected hP => ?_) moves hs hdistinct hexpected rfl
  · rw [← hP, balance, balance, List.map_append, List.sum_append, List.map_singleton,
      List.sum_singleton, h.issued r, Int.add_zero]
  · rw [← hP]
    exact balance_step task (h.even _ hpassage hexpected)

end Account

end Run

end Outreach
