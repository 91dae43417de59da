/-!
# Totals

The sum of a list of numbers.

## Main definitions

* `total`: The sum.

## Theorems

* `total_append`: Lists put together.
* `le_total_of_mem`, `total_take_add_getD`: No member exceeds the sum, not even together
  with those before it.
-/

namespace Outreach

/-- The sum of some numbers. -/
def total : List Nat → Nat
  | [] => 0
  | n :: rest => n + total rest

theorem total_append (xs ys : List Nat) : total (xs ++ ys) = total xs + total ys := by
  induction xs with
  | nil => exact (Nat.zero_add (total ys)).symm
  | cons n rest ih =>
    show n + total (rest ++ ys) = n + total rest + total ys
    rw [ih, Nat.add_assoc]

theorem le_total_of_mem {n : Nat} {xs : List Nat} (h : n ∈ xs) : n ≤ total xs := by
  induction xs with
  | nil => exact absurd h List.not_mem_nil
  | cons m rest ih =>
    rcases List.mem_cons.1 h with rfl | h
    · exact Nat.le_add_right n (total rest)
    · exact Nat.le_trans (ih h) (Nat.le_add_left (total rest) m)

/-- A member, together with those before it, does not exceed the sum. -/
theorem total_take_add_getD (xs : List Nat) (k : Nat) :
    total (xs.take k) + xs.getD k 0 ≤ total xs := by
  induction xs generalizing k with
  | nil =>
    rw [List.take_nil, List.getD_nil]
    exact Nat.le_refl (total [])
  | cons n rest ih =>
    cases k with
    | zero =>
      rw [List.take_zero, total, total, List.getD_cons_zero, Nat.zero_add]
      exact Nat.le_add_right n (total rest)
    | succ k =>
      rw [List.take_succ_cons, total, total, List.getD_cons_succ, Nat.add_assoc]
      exact Nat.add_le_add_left (ih k) n

end Outreach
