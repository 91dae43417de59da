import Outreach.Proofs.Run.Invariant.Counters
import Outreach.Proofs.Run.Invariant.Identifiers

/-!
# Counters Are Conserved

Whatever calls go on side by side, and however their steps interleave, the
counters of a campaign account for its settled records: for all of them whose
outcome has been counted, as far as the size allows that the campaign was
created with. A campaign is completed when its counters are full or, without an
audience, when its dispatch has come to an end.

## Theorems

* `Run.counters_account_for_records`: The counters at every point of every run.
-/

namespace Outreach

namespace Run

theorem countP_recordsOf (s : System) (id : Uuid) (p : DeliveryRecord → Bool) :
    (s.recordsOf id).countP p =
      s.records.countP fun r => decide (r.campaignId = id) && p r := by
  rw [System.recordsOf, List.countP_filter]
  exact List.countP_congr fun r _ => by rw [Bool.and_comm]

/-- The counted records are the sent ones and the failed ones. -/
theorem countP_counted (s : System) (id : Uuid) :
    (s.recordsOf id).countP (fun r => decide (r.status ≠ .pending ∧ r.id ∈ s.counted)) =
      tally s.records s.counted id .sent + tally s.records s.counted id .failed := by
  rw [countP_recordsOf, tally, tally]
  induction s.records with
  | nil => rfl
  | cons r rest ih =>
      rw [List.countP_cons, List.countP_cons, List.countP_cons, ih]
      -- A settled record is sent or failed, and never both.
      by_cases hid : r.campaignId = id
      · by_cases hcounted : r.id ∈ s.counted
        · cases r.status <;>
            simp only [hid, hcounted, decide_true, Bool.true_and, Bool.and_true, ne_eq,
              reduceCtorEq, not_false_eq_true, not_true_eq_false, decide_false, and_true,
              Bool.false_eq_true, if_true, if_false] <;>
            omega
        · simp only [hcounted, and_false, decide_false, Bool.and_false, Bool.false_eq_true,
            if_false, Nat.add_zero]
      · simp only [hid, decide_false, Bool.false_and, Bool.false_eq_true, if_false, Nat.add_zero]

theorem tally_le (s : System) (id : Uuid) (status : DeliveryStatus) :
    tally s.records s.counted id status ≤
      (s.recordsOf id).countP fun r => decide (r.status = status) := by
  rw [countP_recordsOf, tally]
  refine List.countP_mono_left fun r _ h => ?_
  rw [Bool.and_eq_true] at h
  exact h.1

theorem counted_board (s : System) : s.board.counted = s.counted := by
  rw [Board.counted, System.counted, List.filterMap_eq_flatMap_toList]
  rfl

theorem mem_closed {s : System} {id : Uuid} :
    id ∈ s.board.closed ↔ ∃ e ∈ s.events, ∃ completed, e.closed? = some (id, completed) := by
  rw [Board.closed, List.mem_flatMap]
  refine exists_congr fun e => and_congr_right fun _ => ?_
  rw [Event.closed, List.mem_map]
  refine ⟨?_, ?_⟩
  · rintro ⟨c, hc, rfl⟩
    exact ⟨c.2, Option.mem_toList.1 hc⟩
  · rintro ⟨completed, hc⟩
    exact ⟨(id, completed), Option.mem_toList.2 hc, rfl⟩

/-- The counters of a campaign account for its records. -/
structure Accounted (s : System) (c : Campaign) : Prop where
  total : c.sentCount + c.failedCount = min c.audienceSize
    ((s.recordsOf c.id).countP fun r => decide (r.status ≠ .pending ∧ r.id ∈ s.counted))
  sent : c.sentCount ≤ (s.recordsOf c.id).countP fun r => decide (r.status = .sent)
  failed : c.failedCount ≤ (s.recordsOf c.id).countP fun r => decide (r.status = .failed)
  created : ∃ c₀ ∈ s.events.filterMap Event.created?, c₀.id = c.id
  size : ∀ c₀ ∈ s.events.filterMap Event.created?, c₀.id = c.id → c.audienceSize = c₀.audienceSize
  full : 0 < c.audienceSize →
    (c.status = .completed ↔ c.sentCount + c.failedCount = c.audienceSize)
  empty : c.audienceSize = 0 → c.sentCount = 0 ∧ c.failedCount = 0 ∧
    (c.status = .completed ↔ ∃ e ∈ s.events, ∃ completed, e.closed? = some (c.id, completed))

theorem accounted_of_reachable {s : System} {c : Campaign} (h : s.board.Reachable)
    (hc : c ∈ s.campaigns) : Accounted s c := by
  have hkeys : (s.campaigns.map Campaign.id).Nodup :=
    h.identified.apart.of_append_right.of_append_left
  rcases h.balanced c.id c (lookUp_of_mem hkeys hc) with
    ⟨hsize, htotal, hsent, hfailed, hfull, hempty⟩
  rw [Board.tally, Board.tally, counted_board] at htotal
  rw [Board.tally, counted_board] at hsent hfailed
  -- The stored campaigns and those created are the same, with their sizes.
  have htargets : s.campaigns.map Campaign.target =
      (s.events.filterMap Event.created?).map Campaign.target := h.created
  refine ⟨?_, ?_, ?_, ?_, fun c₀ hc₀ hid => ?_, hfull, fun hzero => ⟨?_, ?_, ?_⟩⟩
  · rw [countP_counted]
    exact htotal
  · exact hsent.2.trans (Int.ofNat_le.2 (tally_le s c.id .sent))
  · exact hfailed.2.trans (Int.ofNat_le.2 (tally_le s c.id .failed))
  · have htarget := List.mem_map_of_mem (f := Campaign.target) hc
    rw [htargets] at htarget
    rcases List.mem_map.1 htarget with ⟨c₀, hc₀, heq⟩
    exact ⟨c₀, hc₀, congrArg Prod.fst heq⟩
  · have htarget := List.mem_map_of_mem (f := Campaign.target) hc₀
    rw [← htargets] at htarget
    rcases List.mem_map.1 htarget with ⟨c₁, hc₁, heq⟩
    -- There is but one campaign with the identifier.
    have hsame : c₁ = c :=
      List.inj_on_of_nodup_map hkeys hc₁ hc ((congrArg Prod.fst heq).trans hid)
    rw [← hsame]
    exact congrArg Prod.snd heq
  · rw [Campaign.outcomeCount] at htotal
    omega
  · rw [Campaign.outcomeCount] at htotal
    omega
  · rw [hempty hzero]
    exact mem_closed

/-- At every point of every run from a blank world, the counters of all
    campaigns account for their records. -/
theorem counters_account_for_records {w : World Memory} (hblank : w.Blank) (moves : List Move)
    (hdistinct : ((System.start w).run moves).world.DistinctIds) :
    ∀ c ∈ ((System.start w).run moves).campaigns, Accounted ((System.start w).run moves) c := by
  intro c hc
  exact accounted_of_reachable (System.reachable_run hblank moves hdistinct) hc

theorem counters_account_in_sample :
    sampleWorld.Blank ∧ ((System.start sampleWorld).run sample).world.DistinctIds ∧
      ((System.start sampleWorld).run sample).campaigns.map Campaign.outcomeCount = [1] ∧
      ∀ c ∈ ((System.start sampleWorld).run sample).campaigns,
        Accounted ((System.start sampleWorld).run sample) c := by
  have hblank : sampleWorld.Blank := World.blank_blank _
  have hdistinct : ((System.start sampleWorld).run sample).world.DistinctIds := by decide +kernel
  exact ⟨hblank, hdistinct, by decide +kernel,
    counters_account_for_records hblank sample hdistinct⟩

end Run

end Outreach
