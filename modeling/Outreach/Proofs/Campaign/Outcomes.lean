import Mathlib.Data.List.Basic
import Outreach.Proofs.Campaign.Counters

/-!
# Outcomes in a Row

A campaign that is being sent counts outcomes until its audience has room for no more.
The outcome that takes the last place completes it, and those behind leave it as it is. A
campaign that never had room is not completed by any outcome, but only by the call that
ends its dispatch.

## Main definitions

* `Campaign.room`: How many more outcomes the audience has room for.
* `Campaign.recordAll`: A campaign after outcomes in a row.
* `CounterUpdate.nth`: What each of them changes.
* `Campaign.counted`: A campaign with outcomes in its counters.

## Theorems

* `Campaign.recordAll_of_closed`: A campaign that does not count stays as it is.
* `Campaign.recordAll_eq`: One that counts is filled up, and then completed.
* `Campaign.recordAll_fills`: Which outcomes are counted, and which one completes.
-/

namespace Outreach

/-- What an outcome with `i` others before it changes, where there is room for `room`. -/
def CounterUpdate.nth (room i : Nat) : CounterUpdate :=
  ⟨decide (i < room), decide (i + 1 = room)⟩

namespace CounterUpdate

theorem nth_succ (room i : Nat) : nth (room + 1) (i + 1) = nth room i := by
  simp only [nth, Nat.add_lt_add_iff_right, Nat.add_right_cancel_iff]

/-- Where there is room, the first outcome is counted, and takes the last place if there is
    room for no other. -/
theorem map_nth_succ (room n : Nat) :
    (List.range (n + 1)).map (nth (room + 1)) =
      ⟨true, decide (room = 0)⟩ :: (List.range n).map (nth room) := by
  rw [List.range_succ_eq_map, List.map_cons, List.map_map]
  refine congrArg₂ _ ?_ (List.map_congr_left fun i _ => nth_succ room i)
  simp only [nth, Nat.zero_add, Nat.zero_lt_succ, decide_true, Nat.right_eq_add]

/-- Where there is no room, no outcome changes anything. -/
theorem map_nth_zero (n : Nat) :
    (List.range (n + 1)).map (nth 0) = ⟨false, false⟩ :: (List.range n).map (nth 0) := by
  rw [List.range_succ_eq_map, List.map_cons, List.map_map]
  rfl

end CounterUpdate

namespace Campaign

/-- How many more outcomes the audience has room for. It may have been exceeded before. -/
def room (c : Campaign) : Nat :=
  (c.audienceSize - c.outcomeCount).toNat

/-- A campaign after outcomes in a row, each reported at its time, and what each of them
    changed. -/
def recordAll (c : Campaign) : List (DeliveryStatus × Timestamp) →
    Except Fault (Campaign × List CounterUpdate)
  | [] => .ok (c, [])
  | (outcome, now) :: rest => do
    let (after, update) ← c.recordOutcome outcome now
    let (last, updates) ← after.recordAll rest
    .ok (last, update :: updates)

/-- A campaign with outcomes in its counters. -/
def counted (c : Campaign) (xs : List (DeliveryStatus × Timestamp)) : Campaign :=
  xs.foldl (fun c x => c.count x.1 x.2) c

variable {c : Campaign} {outcome : DeliveryStatus} {xs : List (DeliveryStatus × Timestamp)}

/-! ## One outcome -/

theorem room_eq_zero_iff : c.room = 0 ↔ c.audienceSize ≤ c.outcomeCount := by
  rw [room, Int.toNat_eq_zero]
  omega

theorem room_count (now : Timestamp) : (c.count outcome now).room = c.room - 1 := by
  have hsize : (c.count outcome now).audienceSize = c.audienceSize := by cases outcome <;> rfl
  rw [room, room, outcomeCount_count, hsize]
  omega

/-- The outcome that takes the last place completes the campaign. -/
theorem recordOutcome_of_room {k : Nat} (now : Timestamp) (ho : outcome.isOutcome)
    (hs : c.status = .sending) (hroom : c.room = k + 1) :
    c.recordOutcome outcome now =
      .ok ({ c.count outcome now with status := if k = 0 then .completed else .sending },
        ⟨true, decide (k = 0)⟩) := by
  have hopen : c.outcomeCount < c.audienceSize := by
    rw [room] at hroom
    omega
  have hstatus : (c.count outcome now).status = .sending := (status_count now).trans hs
  have hleft : (c.count outcome now).room = k := by rw [room_count, hroom, Nat.add_sub_cancel]
  rw [recordOutcome_of_open now ho hs hopen]
  by_cases hk : k = 0
  · have hfull := room_eq_zero_iff.1 (hleft.trans hk)
    rw [completeIfExhausted_of_open now hstatus hfull, if_pos hk, decide_eq_true hk]
    cases outcome <;> rfl
  · have hopen' : ¬((c.count outcome now).status = .sending ∧
        (c.count outcome now).audienceSize ≤ (c.count outcome now).outcomeCount) :=
      fun h => hk (hleft.symm.trans (room_eq_zero_iff.2 h.2))
    rw [completeIfExhausted_of_not now hopen', if_neg hk, decide_eq_false hk, ← hstatus]

/-! ## Many outcomes -/

/-- A campaign that does not count stays as it is, whatever is reported. -/
theorem recordAll_of_closed (h : ¬(c.status = .sending ∧ c.outcomeCount < c.audienceSize))
    (hx : ∀ x ∈ xs, x.1.isOutcome) :
    c.recordAll xs = .ok (c, (List.range xs.length).map (CounterUpdate.nth 0)) := by
  induction xs with
  | nil => rfl
  | cons x xs ih =>
      rcases List.forall_mem_cons.1 hx with ⟨hfirst, hrest⟩
      rw [recordAll, recordOutcome_of_not x.2 hfirst h, List.length_cons,
        CounterUpdate.map_nth_zero]
      simp only [bind, Except.bind, ih hrest]

/-- One that counts is filled up, and completed if there was room that is taken. -/
theorem recordAll_eq (hs : c.status = .sending) (hx : ∀ x ∈ xs, x.1.isOutcome) :
    c.recordAll xs =
      .ok ({ c.counted (xs.take c.room) with
          status := if 1 ≤ c.room ∧ c.room ≤ xs.length then .completed else .sending },
        (List.range xs.length).map (CounterUpdate.nth c.room)) := by
  induction xs generalizing c with
  | nil =>
      have hempty : ¬(1 ≤ c.room ∧ c.room ≤ ([] : List (DeliveryStatus × Timestamp)).length) := by
        rw [List.length_nil]
        omega
      rw [List.take_nil, if_neg hempty, ← hs]
      rfl
  | cons x xs ih =>
      rcases List.forall_mem_cons.1 hx with ⟨hfirst, hrest⟩
      cases hroom : c.room with
      | zero =>
          have hclosed : ¬(c.status = .sending ∧ c.outcomeCount < c.audienceSize) :=
            fun h => absurd h.2 (Int.not_lt.2 (room_eq_zero_iff.1 hroom))
          rw [recordAll_of_closed hclosed hx, List.take_zero, if_neg (by omega), ← hs]
          rfl
      | succ k =>
          have hstatus : (c.count x.1 x.2).status = .sending := (status_count x.2).trans hs
          have hleft : (c.count x.1 x.2).room = k := by
            rw [room_count, hroom, Nat.add_sub_cancel]
          rw [recordAll, recordOutcome_of_room x.2 hfirst hs hroom, List.length_cons,
            CounterUpdate.map_nth_succ]
          by_cases hk : k = 0
          -- The last place is taken: nothing that follows counts.
          · subst hk
            have hclosed : ¬(CampaignStatus.completed = .sending ∧
                (c.count x.1 x.2).outcomeCount < (c.count x.1 x.2).audienceSize) := nofun
            have hrecorded := recordAll_of_closed
              (c := { c.count x.1 x.2 with status := .completed }) hclosed hrest
            simp only [bind, Except.bind, if_true, hrecorded]
            rw [if_pos ⟨Nat.le_refl 1, Nat.succ_le_succ (Nat.zero_le _)⟩]
            rfl
          -- There is room left: what follows is counted on top.
          · have hafter : ({ c.count x.1 x.2 with
                status := if k = 0 then .completed else .sending } : Campaign) =
                c.count x.1 x.2 := by
              rw [if_neg hk, ← hstatus]
            rw [hafter]
            simp only [bind, Except.bind, ih hstatus hrest, hleft]
            rw [List.take_succ_cons]
            simp only [counted, List.foldl_cons]
            have hiff : (1 ≤ k ∧ k ≤ xs.length) ↔ (1 ≤ k + 1 ∧ k + 1 ≤ xs.length + 1) := by omega
            simp only [hiff]

/-! ## The counters -/

/-- Each counter grows by its outcomes. -/
theorem sentCount_counted :
    (c.counted xs).sentCount = c.sentCount + xs.countP (fun x => x.1 = .sent) := by
  induction xs generalizing c with
  | nil => exact (Int.add_zero c.sentCount).symm
  | cons x xs ih =>
      rw [counted, List.foldl_cons, ← counted, ih, List.countP_cons]
      rcases x with ⟨outcome, now⟩
      cases outcome with
      | sent =>
          simp only [count, decide_true, if_true]
          omega
      | pending => simp [count]
      | failed => simp [count]

theorem failedCount_counted (hx : ∀ x ∈ xs, x.1.isOutcome) :
    (c.counted xs).failedCount = c.failedCount + xs.countP (fun x => x.1 = .failed) := by
  induction xs generalizing c with
  | nil => exact (Int.add_zero c.failedCount).symm
  | cons x xs ih =>
      rcases List.forall_mem_cons.1 hx with ⟨hfirst, hrest⟩
      rw [counted, List.foldl_cons, ← counted, ih hrest, List.countP_cons]
      rcases x with ⟨outcome, now⟩
      cases outcome with
      | pending => cases hfirst
      | sent => simp [count]
      | failed =>
          simp only [count, decide_true, if_true]
          omega

/-- Which outcomes are counted, and which one completes the campaign: the first ones are, as
    many as there is room for, and the one that takes the last place completes it. A campaign
    without room is completed by none of them, but is by the call for that. -/
theorem recordAll_fills (hs : c.status = .sending) (hx : ∀ x ∈ xs, x.1.isOutcome) :
    ∃ after, c.recordAll xs =
        .ok (after, (List.range xs.length).map (CounterUpdate.nth c.room)) ∧
      after.sentCount = c.sentCount + (xs.take c.room).countP (fun x => x.1 = .sent) ∧
      after.failedCount = c.failedCount + (xs.take c.room).countP (fun x => x.1 = .failed) ∧
      after.status =
        (if 1 ≤ c.room ∧ c.room ≤ xs.length then CampaignStatus.completed else .sending) ∧
      (c.audienceSize ≤ c.outcomeCount → after = c ∧ ∀ now, after.completeIfExhausted now =
        ({ c with status := .completed, updatedAt := now }, true)) := by
  have htaken : ∀ x ∈ xs.take c.room, x.1.isOutcome := fun x h => hx x (List.mem_of_mem_take h)
  refine ⟨_, recordAll_eq hs hx, sentCount_counted, failedCount_counted htaken, rfl, ?_⟩
  intro hfull
  have hroom := room_eq_zero_iff.2 hfull
  have hsame : ({ c.counted (xs.take c.room) with
      status := if 1 ≤ c.room ∧ c.room ≤ xs.length then .completed else .sending } : Campaign) =
      c := by
    rw [hroom, List.take_zero, if_neg (by omega), ← hs]
    rfl
  rw [hsame]
  exact ⟨rfl, fun now => completeIfExhausted_of_open now hs hfull⟩

/-- Three outcomes on a campaign with room for two. -/
theorem recordAll_fills_sample :
    let c : Campaign := { (default : Campaign) with
      status := .sending, audienceSize := 5, sentCount := 2, failedCount := 1 }
    let xs : List (DeliveryStatus × Timestamp) :=
      [(.failed, default), (.sent, default), (.sent, default)]
    (c.status = .sending ∧ ∀ x ∈ xs, x.1.isOutcome) ∧
      ∃ after, c.recordAll xs = .ok (after, [⟨true, false⟩, ⟨true, true⟩, ⟨false, false⟩]) ∧
        after.sentCount = 3 ∧ after.failedCount = 2 ∧ after.status = .completed := by
  intro c xs
  have hx : ∀ x ∈ xs, x.1.isOutcome := by decide
  rcases recordAll_fills (c := c) rfl hx with ⟨after, hrecorded, hsent, hfailed, hstatus, -⟩
  exact ⟨⟨rfl, hx⟩, after, hrecorded, hsent, hfailed, hstatus⟩

end Campaign

end Outreach
