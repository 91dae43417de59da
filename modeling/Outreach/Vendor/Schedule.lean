import Outreach.Number.Arithmetic

/-!
# Schedules

What is due at some time, in a heap: an entry is due no earlier than the one
in the middle of whose two places below it stands. Of the entries that are due
first, the one at the top comes first.

## Main definitions

* `Entry`: What is due, and when.
* `Schedule`: Entries in a heap.
* `Schedule.insert`: A schedule with one more entry.
* `Schedule.without`: A schedule without an item.
* `Schedule.next?`: The first entry and the others.
* `Schedule.dueBefore`: The entries that are due before a time, in order.

## Theorems

* `Schedule.length_insert`: An insertion adds one entry.
* `Schedule.length_of_next?`: Taking the first entry removes one.
-/

namespace Outreach

/-- What is due, and when. -/
structure Entry (α : Type) where
  due : Double
  item : α
  deriving Inhabited

/-- Entries in a heap: below the place `i` are the places `2 * i + 1` and
    `2 * i + 2`. -/
abbrev Schedule (α : Type) := List (Entry α)

namespace Schedule

variable {α : Type}

/-- Put an entry at a place, or above it as long as it is due earlier than what
    stands there; what does so moves down. -/
def raise (s : Schedule α) (place : Nat) (e : Entry α) : Schedule α :=
  if place = 0 then s.set 0 e
  else
    let above := (place - 1) / 2
    match s[above]? with
    | some other =>
      if e.due.lt other.due then raise (s.set place other) above e else s.set place e
    | none => s.set place e
termination_by place

/-- A schedule with one more entry. -/
def insert (s : Schedule α) (e : Entry α) : Schedule α :=
  raise (s ++ [e]) s.length e

/-- The place below a place whose entry is due first. -/
def firstBelow (s : Schedule α) (place : Nat) : Nat :=
  match s[2 * place + 1]?, s[2 * place + 2]? with
  -- Of two that are due at once the right one moves up.
  | some left, some right => if left.due.lt right.due then 2 * place + 1 else 2 * place + 2
  | _, _ => 2 * place + 1

theorem lt_firstBelow (s : Schedule α) (place : Nat) : place < s.firstBelow place := by
  unfold firstBelow
  split <;> try split
  all_goals omega

/-- Fill a place from below, down to the bottom, and put an entry there. -/
def settle (s : Schedule α) (place : Nat) (e : Entry α) : Schedule α :=
  if h : s.firstBelow place < s.length then
    settle (s.set place s[s.firstBelow place]) (s.firstBelow place) e
  else raise s place e
termination_by s.length - place
decreasing_by
  have := s.lt_firstBelow place
  simp only [List.length_set]
  omega

/-- A schedule without the entries of an item. -/
def without [DecidableEq α] (item : α) (s : Schedule α) : Schedule α :=
  (s.filter fun e => e.item ≠ item).foldl insert []

/-- The first entry and the others. -/
def next? (s : Schedule α) : Option (Entry α × Schedule α) :=
  match s with
  | [] => none
  | first :: _ =>
    -- The last entry takes the free place at the top and settles from there.
    match s.dropLast, s.getLast? with
    | _ :: _, some last => some (first, settle s.dropLast 0 last)
    | _, _ => some (first, [])

@[simp]
theorem length_raise (s : Schedule α) (place : Nat) (e : Entry α) :
    (s.raise place e).length = s.length := by
  fun_induction raise s place e <;> simp_all

@[simp]
theorem length_insert (s : Schedule α) (e : Entry α) : (s.insert e).length = s.length + 1 := by
  simp [insert]

@[simp]
theorem length_settle (s : Schedule α) (place : Nat) (e : Entry α) :
    (s.settle place e).length = s.length := by
  fun_induction settle s place e <;> simp_all

theorem length_of_next? {s rest : Schedule α} {e : Entry α} (h : s.next? = some (e, rest)) :
    s.length = rest.length + 1 := by
  unfold next? at h
  split at h
  · simp at h
  · rename_i first tail
    split at h
    · rename_i hd _
      simp only [Option.some.injEq, Prod.mk.injEq] at h
      rw [← h.2, length_settle, List.length_dropLast]
      simp
    · rename_i hd
      simp only [Option.some.injEq, Prod.mk.injEq] at h
      cases tail with
      | nil => simp [← h.2]
      | cons b more =>
          simp only [List.dropLast_cons_cons, List.getLast?_cons_cons] at hd
          exact (hd first _ _ rfl (List.getLast?_eq_some_getLast (by simp))).elim

/-- The entries that are due before a time, in order, and the others. -/
def dueBefore (time : Double) (s : Schedule α) : List (Entry α) × Schedule α :=
  match _h : s.next? with
  | none => ([], s)
  | some (e, rest) =>
    if e.due.lt time then
      let (more, last) := dueBefore time rest
      (e :: more, last)
    else ([], s)
termination_by s.length
decreasing_by
  have := length_of_next? _h
  omega

end Schedule

end Outreach
