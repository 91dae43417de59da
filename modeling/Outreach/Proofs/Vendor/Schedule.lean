import Mathlib.Data.List.Basic
import Outreach.Vendor.Schedule

/-!
# What a Schedule Holds

Entries move about in the heap, but an insertion adds one entry to those that a schedule
holds, and taking the first one removes it. No entry gets lost and none is doubled,
whatever the due times are and even where they cannot be compared.

## Theorems

* `Schedule.perm_insert`, `Schedule.perm_without`: An entry more, and an item less.
* `Schedule.perm_of_next?`, `Schedule.perm_dueBefore`: What is taken out and what stays.
* `Schedule.dueBefore_eq_nil_iff`: Nothing is due unless the first entry is.
-/

namespace Outreach

namespace Schedule

variable {α : Type}

/-- A place takes its new entry from another place, which takes the one that was meant
    for it. -/
theorem perm_set_set {s : Schedule α} {i j : Nat} {a e : Entry α} (hj : j < s.length)
    (hij : i ≠ j) (ha : s[i]? = some a) : ((s.set j a).set i e).Perm (s.set j e) := by
  have hi : i < s.length := (List.getElem?_eq_some_iff.1 ha).1
  have hi' : i < (s.set j e).length := by rwa [List.length_set]
  have hj' : j < (s.set j e).length := by rwa [List.length_set]
  have hswap := List.set_set_perm hj' hi'
  have hai : s[i] = a := (List.getElem?_eq_some_iff.1 ha).2
  rwa [List.getElem_set_self, List.getElem_set_ne (Ne.symm hij), List.set_set, hai] at hswap

theorem perm_raise (s : Schedule α) (place : Nat) (e : Entry α) (h : place < s.length) :
    (s.raise place e).Perm (s.set place e) := by
  fun_induction raise s place e with
  | case1 s => exact List.Perm.refl _
  | case2 s place hzero above other hother hlt ih =>
      refine (ih (by rw [List.length_set]; omega)).trans ?_
      exact perm_set_set h (by omega) hother
  | case3 s place hzero above other hother hlt => exact List.Perm.refl _
  | case4 s place hzero above hnone => exact List.Perm.refl _

theorem perm_insert (s : Schedule α) (e : Entry α) : (s.insert e).Perm (e :: s) := by
  have hlt : s.length < (s ++ [e]).length := by rw [List.length_append]; exact Nat.lt_succ_self _
  refine (perm_raise (s ++ [e]) s.length e hlt).trans ?_
  rw [List.set_append_right _ _ (Nat.le_refl _), Nat.sub_self, List.set_cons_zero]
  exact List.perm_append_singleton e s

theorem perm_foldl_insert (entries : List (Entry α)) : ∀ s : Schedule α,
    (entries.foldl insert s).Perm (entries ++ s) := by
  induction entries with
  | nil => exact fun s => List.Perm.refl s
  | cons e rest ih =>
      intro s
      refine (ih (s.insert e)).trans (((perm_insert s e).append_left rest).trans ?_)
      exact List.perm_middle

theorem perm_without [DecidableEq α] (item : α) (s : Schedule α) :
    (s.without item).Perm (s.filter fun e => e.item ≠ item) := by
  rw [without]
  simpa only [List.append_nil] using perm_foldl_insert (s.filter fun e => e.item ≠ item) []

theorem perm_settle (s : Schedule α) (place : Nat) (e : Entry α) (h : place < s.length) :
    (s.settle place e).Perm (s.set place e) := by
  fun_induction settle s place e with
  | case1 s place hbelow ih =>
      refine (ih (by rwa [List.length_set])).trans ?_
      exact perm_set_set h (Nat.ne_of_gt (s.lt_firstBelow place)) (List.getElem?_eq_getElem hbelow)
  | case2 s place hbelow => exact perm_raise s place e h

theorem perm_of_next? {s rest : Schedule α} {e : Entry α} (h : s.next? = some (e, rest)) :
    s.Perm (e :: rest) := by
  cases s with
  | nil => cases h
  | cons first tail =>
      cases tail with
      | nil =>
          cases h
          exact List.Perm.refl _
      | cons second more =>
          have hlast : (first :: second :: more).getLast? =
              some ((second :: more).getLast (by simp)) := by
            rw [List.getLast?_eq_some_getLast (by simp), List.getLast_cons (by simp)]
          simp only [next?, hlast, List.dropLast_cons_cons, Option.some.injEq, Prod.mk.injEq] at h
          rcases h with ⟨rfl, rfl⟩
          refine List.Perm.cons _ (.symm ((perm_settle (_ :: _) 0 _ (Nat.zero_lt_succ _)).trans ?_))
          rw [List.set_cons_zero]
          -- The last entry takes the place of the first one.
          have hsplit := List.dropLast_append_getLast (l := second :: more) (by simp)
          exact (List.perm_append_singleton _ _).symm.trans (List.Perm.of_eq hsplit)

theorem eq_nil_of_next? {s : Schedule α} (h : s.next? = none) : s = [] := by
  cases s with
  | nil => rfl
  | cons first tail =>
      rw [next?] at h
      split at h <;> cases h

/-- Nothing is due before a time if and only if the first entry is not. -/
theorem dueBefore_eq_nil_iff {s : Schedule α} {pair : Entry α × Schedule α} {time : Double}
    (hnext : s.next? = some pair) :
    (s.dueBefore time).1 = [] ↔ pair.1.due.lt time = false := by
  rw [dueBefore]
  split
  next hnone => cases hnone.symm.trans hnext
  next e rest hsome =>
    cases hsome.symm.trans hnext
    by_cases hlt : e.due.lt time = true
    · rw [if_pos hlt, hlt]
      exact iff_of_false (List.cons_ne_nil _ _) Bool.false_ne_true.symm
    · rw [if_neg hlt]
      exact ⟨fun _ => Bool.not_eq_true _ ▸ hlt, fun _ => rfl⟩

theorem perm_dueBefore (time : Double) (s : Schedule α) :
    s.Perm ((s.dueBefore time).1 ++ (s.dueBefore time).2) := by
  fun_induction dueBefore time s with
  | case1 s h => exact List.Perm.refl _
  | case2 s e rest h hdue more last heq ih =>
      rw [heq] at ih
      exact (perm_of_next? h).trans (ih.cons e)
  | case3 s e rest h hdue => exact List.Perm.refl _

end Schedule

end Outreach
