import Outreach.Proofs.Run.Conservation
import Outreach.Proofs.Run.Invariant.Counters

/-!
# Campaigns With Nothing Left to Settle

When no call is under way any more and all records of a started campaign are
settled, each of them has been counted and the dispatch has come to an end. The
campaign is completed then if there are as many records as customers were
counted when it was created. If the audience has shrunk before the start, the
target is out of reach and the campaign goes on being sent.

## Main definitions

* `Run.Task.ended`: The campaign whose dispatch a call has brought to an end.
* `Run.Board.Followed`: Settled records are counted or about to be, and the end
  of every dispatch is known.
* `Run.Task.started?`: The campaign that a call has started.
* `Run.System.Idle`: No call is under way.
* `Run.Settlement`: What has come of a campaign whose records are all settled.
* `Run.shrinking`: A run in which an audience shrinks.

## Theorems

* `Run.Board.Reachable.followed`: That is so on every board.
* `Run.completed_iff_audience_met`: Which campaigns are completed in the end.
* `Run.settled_campaign_not_completed`: Not all of them are.
-/

namespace Outreach

/-! ## Settled records are accounted for

A settled record is never forgotten: its outcome has been counted, or the
receipt that settled it still has to do so. Neither is the end of a dispatch: a
call that has got that far leaves its mark among the events. Where no call is
under way, all settled records are therefore counted. -/

namespace Run

namespace Task

/-- The campaign whose dispatch a call has brought to an end. -/
def ended : Task → List Uuid
  | dispatch args (.underway (.closing _ _)) => [args.campaignId]
  | dispatch args (.returned _) => [args.campaignId]
  | _ => []

theorem ended_task (r : Request) : r.task.ended = [] := by cases r <;> rfl

variable {k k' : Ledger} {t t' : Task} {n : Nat}

/-- A call that has ended holds no outcome back. -/
theorem counting_of_not_isUnderway (h : t.isUnderway = false) : t.counting = [] := by
  cases t with
  | receipt args p => cases p with
    | underway s => cases h
    | _ => rfl
  | _ => rfl

/-- The outcome that a receipt holds back is counted in its next step. -/
theorem Effect.counting_subset (h : t.Effect k k' t') :
    t.counting ⊆ Event.counted ⟨n, t, t'⟩ := by
  cases h with
  | @receipt args k k' s p effect =>
      cases s with
      | counting record => exact List.Subset.refl _
      | _ => exact List.nil_subset _
  | _ => exact List.nil_subset _

/-- A settled record was settled before, or the receipt that settles it in this
    step goes on to count it. -/
theorem Effect.settled (h : t.Effect k k' t') (hapart : (t.reserved ++ k.identifiers).Nodup)
    (hsound : t.Sound k) {r : DeliveryRecord} (hr : r ∈ k'.tables.records)
    (hsettled : r.status ≠ .pending) :
    r ∈ k.tables.records ∨ r.id ∈ t'.counting := by
  cases h with
  | customer aside => exact Or.inl (aside.records ▸ hr)
  | order aside => exact Or.inl (aside.records ▸ hr)
  | campaign effect => cases effect <;> exact Or.inl hr
  | dispatch effect =>
      cases effect with
      | stored =>
          rw [(Ledger.identifiers_putBatch hapart).1] at hr
          rcases List.mem_append.1 hr with hold | hnew
          · exact Or.inl hold
          -- The records of a new batch are pending.
          · exact absurd (hsound.2 r hnew).2 hsettled
      | _ => exact Or.inl hr
  | receipt effect =>
      cases effect with
      | settled now outcome stored pending =>
          have hkey := Ledger.id_of_record? stored
          rcases mem_upsert hr with heq | hold
          · rw [heq]
            exact Or.inr (List.mem_singleton.2 hkey)
          · exact Or.inl hold
      | _ => exact Or.inl hr

/-- What has come to an end did so before, or does in this step. -/
theorem Effect.ended (h : t.Effect k k' t') :
    t'.ended ⊆ t.ended ++ Event.closed ⟨n, t, t'⟩ := by
  cases h with
  | dispatch effect =>
      cases effect with
      | closed now stored => exact List.Subset.refl _
      | finished => exact List.Subset.refl _
      | _ => exact List.nil_subset _
  | _ => exact List.nil_subset _

end Task

namespace Board

/-- Settled records are counted or about to be, and the end of every dispatch
    is known. -/
structure Followed (b : Board) : Prop where
  settled : ∀ r ∈ b.ledger.tables.records, r.status ≠ .pending →
    r.id ∈ b.tokens Task.counting Event.counted
  ended : b.tasks.flatMap Task.ended ⊆ b.closed

variable {b : Board} {k' : Ledger} {n : Nat} {t t' : Task}

theorem Followed.issued (inv : Followed b) (r : Request) :
    Followed { b with tasks := b.tasks ++ [r.task] } := by
  refine ⟨?_, ?_⟩
  · simp only [tokens, flatMap_snoc (Task.counting_task r)]
    exact inv.settled
  · simp only [flatMap_snoc (Task.ended_task r)]
    exact inv.ended

theorem Followed.advanced (inv : Followed b) (h : Reachable b) (task : b.tasks[n]? = some t)
    (effect : t.Effect b.ledger k' t') :
    Followed ⟨k', b.tasks.set n t', b.events ++ [⟨n, t, t'⟩]⟩ := by
  have hapart := nodup_of_task task h.identified.apart
  have hsound := h.sound t (List.mem_of_getElem? task)
  refine ⟨fun r hr hsettled => ?_, fun id hid => ?_⟩
  · rcases perm_flatMap_set (f := Task.counting) task with ⟨rest, hrest, hset⟩
    simp only [tokens, List.flatMap_append, List.flatMap_singleton, List.mem_append,
      (hset t').mem_iff]
    rcases effect.settled hapart hsound hr hsettled with hold | hnew
    · have htoken := inv.settled r hold hsettled
      simp only [tokens, List.mem_append, hrest.mem_iff] at htoken
      -- What the call held back before is counted by now.
      rcases htoken with (hheld | hothers) | hcounted
      · exact Or.inr (Or.inr (effect.counting_subset hheld))
      · exact Or.inl (Or.inr hothers)
      · exact Or.inr (Or.inl hcounted)
    · exact Or.inl (Or.inl hnew)
  · rcases perm_flatMap_set (f := Task.ended) task with ⟨rest, hrest, hset⟩
    have hbefore : t.ended ++ rest ⊆ b.closed := List.Subset.trans hrest.symm.subset inv.ended
    simp only [closed, List.flatMap_append, List.flatMap_singleton, List.mem_append]
    rcases List.mem_append.1 ((hset t').subset hid) with hown | hothers
    · rcases List.mem_append.1 (effect.ended (n := n) hown) with hold | hnew
      · exact Or.inl (hbefore (List.mem_append_left _ hold))
      · exact Or.inr hnew
    · exact Or.inl (hbefore (List.mem_append_right _ hothers))

/-- That is so on every board. -/
theorem Reachable.followed (h : Reachable b) : Followed b := by
  induction h with
  | start tables handed =>
      refine ⟨fun r hr => ?_, List.nil_subset _⟩
      rw [tables] at hr
      cases hr
  | step before step distinct ih =>
      cases step with
      | issued r => exact ih.issued r
      | advanced task effect => exact ih.advanced before task effect

end Board

end Run

/-! ## Campaigns with nothing left to settle -/

namespace Run

/-- The campaign that a call has started. -/
def Task.started? : Task → Option Uuid
  | dispatch args (.returned _) => some args.campaignId
  | _ => none

namespace System

/-- No call is under way. -/
def Idle (s : System) : Prop := ∀ t ∈ s.tasks, t.isUnderway = false

instance (s : System) : Decidable s.Idle :=
  inferInstanceAs (Decidable (∀ t ∈ s.tasks, t.isUnderway = false))

variable {s : System}

/-- Where no call is under way, all settled records have been counted. -/
theorem Idle.mem_counted (hidle : s.Idle) (h : s.board.Reachable) {r : DeliveryRecord}
    (hr : r ∈ s.records) (hsettled : r.status ≠ .pending) : r.id ∈ s.counted := by
  have hnone : s.tasks.flatMap Task.counting = [] :=
    List.flatMap_eq_nil_iff.2 fun t ht => Task.counting_of_not_isUnderway (hidle t ht)
  have htoken : r.id ∈ s.tasks.flatMap Task.counting ++ s.board.counted :=
    h.followed.settled r hr hsettled
  rw [hnone, List.nil_append, counted_board] at htoken
  exact htoken

end System

variable {s : System} {c : Campaign}

/-- A call that has started a campaign has brought its dispatch to an end. -/
theorem exists_closed_of_started (h : s.board.Reachable)
    (hstarted : ∃ t ∈ s.tasks, t.started? = some c.id) :
    ∃ e ∈ s.events, ∃ completed, e.closed? = some (c.id, completed) := by
  rcases hstarted with ⟨t, ht, hid⟩
  refine mem_closed.1 (h.followed.ended (List.mem_flatMap.2 ⟨t, ht, ?_⟩))
  cases t with
  | dispatch args p => cases p with
    | returned records =>
        injection hid with hid
        exact List.mem_singleton.2 hid.symm
    | _ => cases hid
  | _ => cases hid

/-- What has come of a campaign whose records are all settled. -/
structure Settlement (s : System) (c : Campaign) : Prop where
  /-- Completion is a matter of the audience alone. -/
  completed : c.status = .completed ↔ c.audienceSize ≤ (s.recordsOf c.id).length
  /-- Short of it the campaign goes on being sent. -/
  sending : c.status ≠ .completed → c.status = .sending
  /-- No outcome is missing from the counters that they have room for. -/
  total : c.sentCount + c.failedCount = min c.audienceSize (s.recordsOf c.id).length

theorem settlement_of_reachable (h : s.board.Reachable) (hidle : s.Idle) (hc : c ∈ s.campaigns)
    (hstarted : ∃ t ∈ s.tasks, t.started? = some c.id)
    (hsettled : ∀ r ∈ s.recordsOf c.id, r.status ≠ .pending) : Settlement s c := by
  have hkeys : (s.campaigns.map Campaign.id).Nodup :=
    h.identified.apart.of_append_right.of_append_left
  have hclosed := exists_closed_of_started h hstarted
  have haccounted := accounted_of_reachable h hc
  have hsize := (h.balanced c.id c (lookUp_of_mem hkeys hc)).size
  -- Nothing is pending and nothing held back, so every record counts.
  have hall : (s.recordsOf c.id).countP (fun r => decide (r.status ≠ .pending ∧ r.id ∈ s.counted)) =
      (s.recordsOf c.id).length := by
    refine List.countP_eq_length.2 fun r hr => decide_eq_true ⟨hsettled r hr, ?_⟩
    exact hidle.mem_counted h (List.mem_of_mem_filter hr) (hsettled r hr)
  have htotal := haccounted.total
  rw [hall] at htotal
  refine ⟨?_, fun hne => ?_, htotal⟩
  · rcases hsize.lt_or_eq with hpos | hzero
    · rw [haccounted.full hpos, htotal]
      omega
    -- Without an audience the end of the dispatch completes the campaign.
    · rw [(haccounted.empty hzero.symm).2.2]
      exact iff_of_true hclosed (by omega)
  · -- A dispatch that came to an end has stored its batch and left the campaign started.
    rcases hclosed with ⟨e, he, completed, hclosed⟩
    rcases h.started (h.dispatched.closed e he _ hclosed) with ⟨d, hd, hstatus⟩
    have hsame : d = c := Option.some.inj (hd.symm.trans (lookUp_of_mem hkeys hc))
    rw [hsame] at hstatus
    cases hcases : c.status with
    | pending => exact absurd hcases hstatus
    | sending => rfl
    | completed => exact absurd hcases hne

/-- Whatever happened between the creation of a campaign and its start: when no
    call is under way, and all records of the started campaign are settled, it is
    completed exactly if they are as many as its audience was. -/
theorem completed_iff_audience_met {w : World Memory} (hblank : w.Blank) (moves : List Move)
    (hdistinct : ((System.start w).run moves).world.DistinctIds)
    (hidle : ((System.start w).run moves).Idle) {c : Campaign}
    (hc : c ∈ ((System.start w).run moves).campaigns)
    (hstarted : ∃ t ∈ ((System.start w).run moves).tasks, t.started? = some c.id)
    (hsettled : ∀ r ∈ ((System.start w).run moves).recordsOf c.id, r.status ≠ .pending) :
    Settlement ((System.start w).run moves) c := by
  exact settlement_of_reachable (System.reachable_run hblank moves hdistinct) hidle hc hstarted
    hsettled

/-- A run in which the audience of a campaign shrinks: it is created for the two
    customers who have not ordered yet, and started when one of them has. The one
    message that goes out is reported as sent. -/
def shrinking : List Move :=
  let newcomers : List Rule := [⟨.visits, .less, "1", .and⟩]
  let advances (n count : Nat) : List Move := List.replicate count (.advance n)
  [.issue (.customer ⟨"Ann", "ann@example.org", .null, Double.zero, 0, none⟩)] ++ advances 0 3 ++
    [.issue (.customer ⟨"Bob", "bob@example.org", .null, Double.zero, 0, none⟩)] ++
    advances 1 3 ++
    [.issue (.campaign ⟨"Spring", "Hello", newcomers⟩)] ++ advances 2 4 ++
    [.issue (.order ⟨"bob@example.org", Double.ofInt 5, none, []⟩)] ++ advances 3 3 ++
    [.issue (.dispatch ⟨Uuid.ofNat 2, newcomers, "Hello", none⟩)] ++ advances 4 8 ++
    [.issue (.receipt ⟨Uuid.ofNat 4, .sent⟩)] ++ advances 5 4

/-- All is done and settled in that run, and yet the campaign is not
    completed. -/
theorem settled_campaign_not_completed :
    sampleWorld.Blank ∧ ((System.start sampleWorld).run shrinking).world.DistinctIds ∧
      ((System.start sampleWorld).run shrinking).Idle ∧
      ∃ c ∈ ((System.start sampleWorld).run shrinking).campaigns,
        (∃ t ∈ ((System.start sampleWorld).run shrinking).tasks, t.started? = some c.id) ∧
        (∀ r ∈ ((System.start sampleWorld).run shrinking).recordsOf c.id, r.status ≠ .pending) ∧
        c.status ≠ .completed := by
  refine ⟨World.blank_blank _, ?_, ?_, ?_⟩ <;> decide +kernel

/-- The campaign of that run met one half of its audience. -/
theorem audience_not_met_in_shrinking :
    ∃ c ∈ ((System.start sampleWorld).run shrinking).campaigns,
      c.audienceSize = 2 ∧ (((System.start sampleWorld).run shrinking).recordsOf c.id).length = 1 ∧
      Settlement ((System.start sampleWorld).run shrinking) c := by
  have hblank : sampleWorld.Blank := World.blank_blank _
  have hdistinct : ((System.start sampleWorld).run shrinking).world.DistinctIds := by
    decide +kernel
  have hidle : ((System.start sampleWorld).run shrinking).Idle := by decide +kernel
  have hall : ∃ c ∈ ((System.start sampleWorld).run shrinking).campaigns,
      c.audienceSize = 2 ∧
      (((System.start sampleWorld).run shrinking).recordsOf c.id).length = 1 ∧
      (∃ t ∈ ((System.start sampleWorld).run shrinking).tasks, t.started? = some c.id) ∧
      ∀ r ∈ ((System.start sampleWorld).run shrinking).recordsOf c.id, r.status ≠ .pending := by
    decide +kernel
  rcases hall with ⟨c, hc, hsize, hlength, hstarted, hsettled⟩
  exact ⟨c, hc, hsize, hlength,
    completed_iff_audience_met hblank shrinking hdistinct hidle hc hstarted hsettled⟩

end Run

end Outreach
