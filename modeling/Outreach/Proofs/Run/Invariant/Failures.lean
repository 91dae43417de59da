import Outreach.Proofs.Rule.Faults
import Outreach.Proofs.Run.Invariant.Counters
import Outreach.Proofs.Service.Course

/-!
# What Failing Calls Leave

The caller of a dispatch is told which failures to expect. When one of these ends a call
that has claimed its campaign, the campaign has been put back: on a reachable board a
claimed campaign is being sent and has no outcomes, so that nothing stands in the way of
that. Any other failure, such as that of a customer who cannot be matched, leaves the
campaign claimed.

A receipt fails for an unknown record only where it looks the record up.

## Main definitions

* `Dispatch.documents`: The failures to expect.
* `Dispatch.Leaves`, `Receipts.Leaves`, `Run.Task.Leaves`: What a failing step leaves.

## Theorems

* `Run.Board.Reachable.held`: Claimed campaigns can be put back.
* `Dispatch.advance_leaves`, `Receipts.advance_leaves`: The steps of dispatches and
  receipts.
* `Run.System.leaves_advance`: The steps of all calls.
-/

namespace Outreach

variable {w : World Memory}

namespace Dispatch

/-- The failures that the caller of a dispatch is told to expect. -/
def documents : Fault → Bool
  | .campaignNotFound _ | .alreadyStarted .. | .resolverUnavailable _ => true
  | f => f.isRule || f.isRepository

/-- What a step of a dispatch leaves if it fails. After a failure to expect, a campaign
    that was claimed is not started any more. The end of a dispatch does not fail. -/
def Leaves (args : NewDispatch) (k : Ledger) :
    Stage → Progress Stage (List DeliveryRecord) → Prop
  | .resolving _ _, .raised f | .releasing _, .raised f | .drafting _ _, .raised f
  | .storing _ _, .raised f => documents f = true → ¬k.Started args.campaignId
  | .closing _ _, .raised _ => False
  | _, _ => True

/-- What only drafts records fails with the clock. -/
theorem ends_draft_fails (id : Uuid) (template : Text) (customers : List Customer) :
    ∀ w : World Memory, Action.Ends (draft id template customers) w (fun _ _ => True)
      fun f _ => f = .dateRange := by
  induction customers with
  | nil => exact fun _ => trivial
  | cons c rest ih =>
      intro w
      simp only [draft, List.mapM_cons, draftOne, Action.ends_bind, Action.ends_freshId,
        Action.ends_now, Action.ends_pure]
      exact ⟨fun _ _ => ih { w with drawn := w.drawn + 1 }, fun f h => fault_of_inUtc h⟩

/-- A campaign that was put back is not started. -/
theorem not_started_putIn {id : Uuid} {c : Campaign} (hid : c.id = id)
    (hpending : c.status = .pending) : ¬(putIn w c).ledger.Started id := by
  rintro ⟨d, hd, hne⟩
  have hstored : (putIn w c).ledger.campaign? id = some c :=
    (lookUp_putIn w c id).trans (if_pos hid)
  rw [hstored, Option.some.injEq] at hd
  exact hne (hd ▸ hpending)

/-- That is what it leaves where its campaign is held. -/
theorem advance_leaves {args : NewDispatch} (s : Stage)
    (hheld : args.campaignId ∈ (Run.Task.dispatch args (.underway s)).claims →
      ∃ c, Held args.campaignId c w) :
    Action.Ends (advance args s) w (fun p v => Leaves args v.ledger s p)
      fun f v => Leaves args v.ledger s (.raised f) := by
  cases s with
  | resolving campaign p =>
      simp only [advance, tryResolve, Audience.resolve, Audience.query, Action.ends_bind,
        Action.ends_capture, Memory.ends_unitOfWork, Repository.findMatching, Memory.ends_ask,
        Action.ends_pure, Action.ends_note, Action.ends_ite, Action.ends_throw]
      refine ⟨fun _ _ => trivial, fun e he => ⟨fun _ => trivial, fun hother => ?_⟩⟩
      -- A failure of the store becomes one of the query, for which the campaign is put back.
      rcases Memory.findMatching_error he with hstore | ⟨c, -, hmatches⟩
      · exact absurd hstore hother
      · rcases Predicate.fault_of_matches p hmatches with rfl | rfl <;>
          exact fun h => absurd h Bool.false_ne_true
  | releasing f =>
      rcases hheld List.mem_cons_self with ⟨c, hc⟩
      have hid : c.id = args.campaignId := key_of_lookUp hc.stored
      simp only [advance, Action.ends_bind, Action.ends_throw, ends_release_of_held hc]
      exact fun _ => not_started_putIn hid rfl
  | drafting campaign customers =>
      have hdraft : ∀ v, Action.Ends (draft args.campaignId args.template customers) v
          (fun _ _ => True) fun f u => Leaves args u.ledger (.drafting campaign customers)
            (.raised f) :=
        fun v => (ends_draft_fails _ _ _ v).mono (fun _ _ h => h) fun f u hf h => by
          rw [hf] at h
          exact absurd h Bool.false_ne_true
      simp only [advance, noteChange, Action.ends_bind, Action.ends_ite, Action.ends_note,
        Action.ends_pure]
      exact ⟨fun _ => hdraft _, fun _ => hdraft _⟩
  | storing customers records =>
      simp only [advance, tryStore, announce, Action.ends_bind, Action.ends_capture,
        Memory.ends_unitOfWork, Repository.saveRecords]
      cases hb : w.store.batchFault with
      | none =>
          rw [Memory.ends_change_of_ok (by simp only [Memory.saveRecords_eq, hb]; rfl)]
          exact trivial
      | some reason =>
          rw [Memory.ends_change_of_error (by simp only [Memory.saveRecords_eq, hb]; rfl)]
          exact trivial
  | closing records completed =>
      simp only [advance, noteCompletion, Action.ends_bind, Action.ends_ite, Action.ends_measure,
        Action.ends_note, Action.ends_pure]
      exact ⟨fun _ => trivial, fun _ => trivial⟩
  | _ => exact Action.ends_of_forall (fun _ _ => trivial) fun _ _ => trivial

end Dispatch

namespace Receipts

/-- A step of a receipt that fails for an unknown record has just looked for it. -/
def Leaves (s : Stage) (p : Progress Stage ReceiptResult) : Prop :=
  ∀ id, p = .raised (.unknownRecord id) → s = .finding

theorem advance_leaves {args : Receipt} (s : Stage)
    (hstored : ∀ record, s = .settling record → ∃ r, w.ledger.record? args.recordId = some r) :
    Action.Ends (advance args s) w (fun p _ => Leaves s p) fun f _ => Leaves s (.raised f) := by
  cases s with
  | checking =>
      simp only [advance, ensureOutcome, Action.ends_bind, Action.ends_ite, Action.ends_throw,
        Action.ends_pure]
      exact ⟨fun _ => by rintro id ⟨⟩, fun _ => by rintro id ⟨⟩⟩
  | finding => exact Action.ends_of_forall (fun _ _ _ _ => rfl) fun _ _ _ _ => rfl
  | settling record =>
      simp only [advance, settle, Action.ends_bind, Action.ends_capture, Repository.settleRecord]
      cases hsettle : w.store.settleRecord args.recordId args.outcome w.time with
      | ok x =>
          rw [Memory.ends_change_of_ok hsettle]
          simp only [noteDuplicate, Action.ends_bind, Action.ends_pure, Action.ends_ite,
            Action.ends_measure, Action.ends_note]
          exact ⟨fun _ => by rintro id ⟨⟩, fun _ => by rintro id ⟨⟩⟩
      | error f =>
          rw [Memory.ends_change_of_error hsettle]
          -- The record is stored, so there was no outcome to settle it with.
          rcases Memory.settleRecord_error hsettle with hnone | ⟨shown, rfl⟩
          · rcases hstored record rfl with ⟨r, hr⟩
            exact absurd (hr.symm.trans hnone) (Option.some_ne_none r)
          · rintro id ⟨⟩
  | counting record =>
      simp only [advance, Action.ends_bind, Repository.recordOutcome]
      cases hcount : w.store.recordOutcome record.campaignId args.outcome w.time with
      | ok x =>
          rw [Memory.ends_change_of_ok hcount]
          exact ends_noteUpdate _ _ _ fun _ _ => by rintro id ⟨⟩
      | error f =>
          rw [Memory.ends_change_of_error hcount]
          rcases Memory.recordOutcome_error hcount with rfl | ⟨shown, rfl⟩ <;>
            rintro id ⟨⟩

end Receipts

namespace Run

/-- What a step of a call leaves if it fails. -/
def Task.Leaves (k : Ledger) : Task → Task → Prop
  | dispatch args (.underway s), dispatch _ p => Dispatch.Leaves args k s p
  | receipt _ (.underway s), receipt _ p => Receipts.Leaves s p
  | _, _ => True

namespace Board

variable {b : Board} {n : Nat} {t : Task}

/-- A claimed campaign is being sent and has no outcomes. -/
theorem Reachable.held (h : Reachable b) (task : b.tasks[n]? = some t) {id : Uuid}
    (hid : id ∈ t.claims) :
    ∃ c, b.ledger.campaign? id = some c ∧ c.status = .sending ∧ c.outcomeCount = 0 := by
  have htasks : id ∈ b.tasks.flatMap Task.claims :=
    List.mem_flatMap.2 ⟨t, List.mem_of_getElem? task, hid⟩
  rcases h.claims.valid id (List.mem_append_left _ htasks) with ⟨c, hc, hstarted⟩
  -- No batch is stored for it, so there are no records and its dispatch has not ended.
  have hnot : id ∉ b.dispatched := List.disjoint_of_nodup_append h.claims.apart htasks
  have hrecords : ∀ r ∈ b.ledger.tables.records, r.campaignId ≠ id :=
    fun r hr heq => hnot (heq ▸ h.dispatched.records r hr)
  have hopen : id ∉ b.closed := fun hmem => hnot (h.mem_dispatched_of_closed hmem)
  have hbalanced := h.balanced id c hc
  have hsent : b.tally id .sent = 0 := tally_eq_zero hrecords
  have hfailed : b.tally id .failed = 0 := tally_eq_zero hrecords
  rw [hsent, hfailed] at hbalanced
  have hcount : c.outcomeCount = 0 := by
    have hsize := hbalanced.size
    have htotal := hbalanced.total
    omega
  refine ⟨c, hc, ?_, hcount⟩
  have hincomplete : c.status ≠ .completed := by
    intro hcompleted
    rcases hbalanced.size.lt_or_eq with hpos | hzero
    · have hfull := (hbalanced.full hpos).1 hcompleted
      omega
    · exact hopen ((hbalanced.empty hzero.symm).1 hcompleted)
  cases hstatus : c.status with
  | pending => exact absurd hstatus hstarted
  | sending => rfl
  | completed => exact absurd hstatus hincomplete

end Board

/-- What the next step of a call leaves if it fails. -/
theorem System.leaves_advance {s : System} (h : s.board.Reachable) {n : Nat} {t : Task}
    (task : s.tasks[n]? = some t) :
    t.Leaves (t.advance s.world).2.ledger (t.advance s.world).1 := by
  cases t with
  | dispatch args p =>
      cases p with
      | underway stage =>
          have hheld : args.campaignId ∈ (Task.dispatch args (.underway stage)).claims →
              ∃ c, Dispatch.Held args.campaignId c s.world := by
            intro hid
            rcases h.held task hid with ⟨c, hc, hsending, hcount⟩
            exact ⟨c, hc, hsending, hcount⟩
          exact Progress.holds_after (R := fun p v => Dispatch.Leaves args v.ledger stage p)
            (Dispatch.advance_leaves stage hheld)
      | _ => exact trivial
  | receipt args p =>
      cases p with
      | underway stage =>
          refine Progress.holds_after (R := fun p _ => Receipts.Leaves stage p)
            (Receipts.advance_leaves stage ?_)
          rintro record rfl
          rcases h.sound _ (List.mem_of_getElem? task) with ⟨r, hr, -⟩
          exact ⟨r, hr⟩
      | _ => exact trivial
  | _ => exact trivial

end Run

end Outreach
