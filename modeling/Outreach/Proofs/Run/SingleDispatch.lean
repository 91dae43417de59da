import Outreach.Proofs.Run.Conservation
import Outreach.Proofs.Run.Invariant.Batches

/-!
# A Campaign Is Dispatched Once

However many calls start a campaign, side by side or one after the other, and
whichever of them fail, one of them at most stores a batch for it. That call
alone hands messages over, each of them once. All others fail. Until a batch is
stored nothing has happened to the campaign, and from then on it is never
pending again.

## Theorems

* `Run.dispatched_at_most_once`: The dispatches of a campaign at every point of
  every run.
-/

namespace Outreach

namespace Run

theorem mem_dispatched_iff {s : System} {id : Uuid} :
    id ∈ s.board.dispatched ↔ ∃ e ∈ s.events, ∃ batch, e.stored? = some (id, batch) := by
  rw [Board.dispatched, List.mem_flatMap]
  refine exists_congr fun e => and_congr_right fun _ => ?_
  rw [Event.dispatched, List.mem_map]
  refine ⟨?_, ?_⟩
  · rintro ⟨x, hx, rfl⟩
    exact ⟨x.2, Option.mem_toList.1 hx⟩
  · rintro ⟨batch, hx⟩
    exact ⟨(id, batch), Option.mem_toList.2 hx, rfl⟩

theorem dispatched_board (s : System) :
    s.board.dispatched = (s.events.filterMap Event.stored?).map Prod.fst := by
  rw [List.filterMap_eq_flatMap_toList, List.map_flatMap]
  rfl

/-- What was done stays done. -/
theorem events_prefix_of_run (moves : List Move) :
    ∀ {s : System}, s.events <+: (s.run moves).events := by
  induction moves with
  | nil => exact fun {s} => List.prefix_refl s.events
  | cons m rest ih =>
      intro s
      refine List.IsPrefix.trans ?_ ih
      rcases System.board_move s m with heq | hstep
      · have hevents : s.events = (s.move m).events := congrArg Board.events heq.symm
        exact ⟨[], (List.append_nil _).trans hevents⟩
      · exact hstep.events_prefix

/-- The dispatches of a campaign as the calls of a run have carried them out, and
    what comes after that. -/
structure DispatchedOnce (s : System) (id : Uuid) (later : List Move) : Prop where
  /-- One call at most gets past storing a batch, empty or not. -/
  once : ((s.events.filterMap Event.stored?).map Prod.fst).count id ≤ 1
  /-- Any other call that has ended has failed. -/
  others : ∀ n args p, s.tasks[n]? = some (.dispatch args p) → args.campaignId = id →
    p.isUnderway = false → (∃ batch, StoredBy n id batch s.events) ∨ ∃ f, p = .raised f
  /-- The records are for different customers. -/
  recipients : ((s.recordsOf id).map DeliveryRecord.customerId).Nodup
  /-- The sender is given no record twice. -/
  handed : (s.handed.map fun h => h.record.id).Nodup
  /-- It is given records by the call that stored them, and by no other. -/
  sender : s.handed.map Handover.record = s.events.filterMap Event.handed? ∧
    ∀ e ∈ s.events, ∀ r, e.handed? = some r →
      ∃ id batch, StoredBy e.number id batch s.events ∧ r ∈ batch
  /-- Nothing has happened to a pending campaign. -/
  pending : ∀ c, s.campaign? id = some c → c.status = .pending →
    s.recordsOf id = [] ∧ c.sentCount = 0 ∧ c.failedCount = 0
  /-- A campaign whose batch is stored is never pending again. -/
  started : (∃ e ∈ s.events, ∃ batch, e.stored? = some (id, batch)) →
    ∃ c, (s.run later).campaign? id = some c ∧ c.status ≠ .pending

variable {s : System} {id : Uuid}

/-- A call that has ended has stored its batch before, or has failed. -/
theorem storedBy_or_raised (h : s.board.Reachable) {n : Nat} {args : NewDispatch}
    {p : Progress Dispatch.Stage (List DeliveryRecord)}
    (ht : s.tasks[n]? = some (.dispatch args p)) (hp : p.isUnderway = false) :
    (∃ batch, StoredBy n args.campaignId batch s.events) ∨ ∃ f, p = .raised f := by
  have htraced := h.traced.tasks n _ ht
  cases p with
  | underway s => cases hp
  | returned records => exact Or.inl ⟨records, htraced⟩
  | raised f => exact Or.inr ⟨f, rfl⟩

/-- The records of one campaign are for different customers. -/
theorem nodup_customers (h : s.board.Reachable) (id : Uuid) :
    ((s.recordsOf id).map DeliveryRecord.customerId).Nodup := by
  have hall : (s.records.map DeliveryRecord.recipient).Nodup := h.dispatched.recipients
  refine List.Nodup.map_on (fun r hr r' hr' heq => ?_)
    ((List.Nodup.of_map _ hall).sublist List.filter_sublist)
  rcases List.mem_filter.1 hr with ⟨hmem, hid⟩
  rcases List.mem_filter.1 hr' with ⟨hmem', hid'⟩
  -- Records of one campaign for one customer are the same record.
  refine List.inj_on_of_nodup_map hall hmem hmem' ?_
  rw [DeliveryRecord.recipient, DeliveryRecord.recipient, heq, of_decide_eq_true hid,
    of_decide_eq_true hid']

/-- What the sender has is what was handed over. -/
theorem handed_ids (h : s.board.Reachable) :
    (s.handed.map fun x => x.record.id) = s.events.flatMap Event.handed := by
  have hsender : s.handed.map Handover.record = s.events.filterMap Event.handed? := h.traced.sender
  calc
    (s.handed.map fun x => x.record.id)
      = (s.handed.map Handover.record).map DeliveryRecord.id := by
          rw [List.map_map]
          rfl
    _ = (s.events.filterMap Event.handed?).map DeliveryRecord.id := by rw [hsender]
    _ = s.events.flatMap Event.handed := by
          rw [List.filterMap_eq_flatMap_toList, List.map_flatMap]
          rfl

/-- Nothing has happened to a pending campaign. -/
theorem nothing_of_pending (h : s.board.Reachable) {c : Campaign} (hc : s.campaign? id = some c)
    (hpending : c.status = .pending) :
    s.recordsOf id = [] ∧ c.sentCount = 0 ∧ c.failedCount = 0 := by
  -- A stored batch would have started the campaign, and records come from one.
  have hnot : id ∉ s.board.dispatched := by
    intro hmem
    rcases h.started hmem with ⟨d, hd, hne⟩
    have hsame : s.campaign? id = some d := hd
    rw [hc, Option.some.injEq] at hsame
    exact hne (hsame ▸ hpending)
  have hrecords : ∀ r ∈ s.records, r.campaignId ≠ id :=
    fun r hr heq => hnot (heq ▸ h.dispatched.records r hr)
  rcases h.balanced id c hc with ⟨-, -, hsent, hfailed, -, -⟩
  have hsent0 : s.board.tally id .sent = 0 := tally_eq_zero hrecords
  have hfailed0 : s.board.tally id .failed = 0 := tally_eq_zero hrecords
  refine ⟨?_, by omega, by omega⟩
  exact List.filter_eq_nil_iff.2 fun r hr => by simp only [hrecords r hr, decide_false,
    Bool.false_eq_true, not_false_eq_true]

/-- At every point of every run from a blank world, a campaign has been
    dispatched once at most. -/
theorem dispatched_at_most_once {w : World Memory} (hblank : w.Blank) (moves later : List Move)
    (hdistinct : ((System.start w).run (moves ++ later)).world.DistinctIds) (id : Uuid) :
    DispatchedOnce ((System.start w).run moves) id later := by
  rw [System.run_append] at hdistinct
  have hlater := System.reachable_run hblank moves (System.distinctIds_of_run later hdistinct)
  have hend := System.reachable_of_run later hlater hdistinct
  refine ⟨?_, ?_, nodup_customers hlater id, ?_, ⟨hlater.traced.sender, hlater.traced.handed⟩,
    fun c hc hpending => nothing_of_pending hlater hc hpending, ?_⟩
  · rw [← dispatched_board]
    exact List.nodup_iff_count_le_one.1 hlater.claims.apart.of_append_right id
  · rintro n args p ht rfl hp
    exact storedBy_or_raised hlater ht hp
  · rw [handed_ids hlater]
    exact hlater.messages.apart.of_append_right
  · rintro ⟨e, he, hstored⟩
    -- The batch stays stored, and a campaign with a stored batch is started.
    refine hend.started (mem_dispatched_iff.2 ⟨e, ?_, hstored⟩)
    exact (events_prefix_of_run later).subset he

/-- Two calls start the campaign of the sample run, and one of them sends its
    message. -/
theorem dispatched_at_most_once_in_sample :
    sampleWorld.Blank ∧ ((System.start sampleWorld).run (sample ++ sample)).world.DistinctIds ∧
      ((System.start sampleWorld).run sample).handed.length = 1 ∧
      DispatchedOnce ((System.start sampleWorld).run sample) (Uuid.ofNat 1) sample := by
  have hblank : sampleWorld.Blank := World.blank_blank _
  have hdistinct : ((System.start sampleWorld).run (sample ++ sample)).world.DistinctIds := by
    decide +kernel
  exact ⟨hblank, hdistinct, by decide +kernel,
    dispatched_at_most_once hblank sample sample hdistinct (Uuid.ofNat 1)⟩

end Run

end Outreach
