import Outreach.Metrics
import Outreach.Proofs.Number.Nearest
import Outreach.Proofs.Run.System
import Outreach.Proofs.Store.Memory

/-!
# What a Step of a Call Counts

Metrics are not part of the ledger, and few steps count anything. What a step counts can
be read off the call before and after it: a campaign that was stored is counted as
created, a stored batch as a start with the number of its records, a receipt by what came
of it, and a completion by the call that brought it about.

## Main definitions

* `Amount.ofSizes`: What is counted of the sizes of batches.
* `Metrics.since`: What was counted between two readings.
* `Campaigns.measured`, `Dispatch.measured`, `Receipts.measured`: What the steps of these
  calls count.
* `Run.Task.measured`: What a step of any call counts.

## Theorems

* `Double.isInfinite_ofInt`: Whole numbers up to `2 ^ 53` are finite doubles.
* `Amount.sumOf_ofSizes`: Their sums are exact.
* `Tally.count_bump`, `Tally.count_since`: Counts under labels.
* `Metrics.fst_campaignStarted`: What is counted of a started campaign.
* `Campaigns.advance_metrics`, `Dispatch.advance_metrics`, `Receipts.advance_metrics`:
  Nothing else is counted.
* `Run.Task.metrics_advance`: The metrics after a step of any call.
-/

namespace Outreach

/-! ## What metrics show

Counters are doubles to those who read them. Up to `2 ^ 53` that makes no difference:
whole numbers are finite doubles, and their sums are exact.

Metrics may have been counting before the calls that one is interested in. What these
have counted is the difference between two readings. -/

/-! ## Whole amounts -/

namespace Double

/-- Whole numbers up to `2 ^ 53` are finite doubles. -/
theorem isInfinite_ofInt {n : Nat} (h : n ≤ twoTo 53) : (ofInt n).isInfinite = false := by
  have hrounds := rounds_ofRatio (decide ((n : Int) < 0)) n Nat.one_pos
  have hfinite : (n / (1 : Nat) : ℚ) < overflow := by
    have hle : (n : ℚ) ≤ 2 ^ 53 := by
      rw [← cast_twoTo]
      exact Nat.cast_le.2 h
    rw [Nat.cast_one, div_one]
    exact hle.trans_lt (pow_lt_overflow (by decide))
  have hself := hrounds.finite.2 hfinite
  rw [isFinite, Bool.and_eq_true, Bool.not_eq_true', Bool.not_eq_true'] at hself
  rw [ofInt, Int.natAbs_natCast]
  exact hself.2

end Double

namespace Amount

/-- What is counted of some sizes: those that are numbers for a double. -/
def ofSizes (sizes : List Nat) : List Amount :=
  (sizes.filter fun n : Nat => !(Double.ofInt n).isInfinite).map fun n : Nat => whole n

theorem ofSizes_append (sizes more : List Nat) :
    ofSizes (sizes ++ more) = ofSizes sizes ++ ofSizes more := by
  rw [ofSizes, List.filter_append, List.map_append]
  rfl

/-- Sizes that add up to `2 ^ 53` at most are counted, and their sum is exact. -/
theorem sumOf_ofSizes {sizes : List Nat} (h : total sizes ≤ twoTo 53) :
    sumOf (ofSizes sizes) = total sizes := by
  have hall : (sizes.filter fun n : Nat => !(Double.ofInt n).isInfinite) = sizes := by
    refine List.filter_eq_self.2 fun n hn => ?_
    rw [Double.isInfinite_ofInt (Nat.le_trans (le_total_of_mem hn) h), Bool.not_false]
  have hexact : (sizes.map fun n : Nat => whole n).mapM whole? = some sizes := by
    clear h hall
    induction sizes with
    | nil => rfl
    | cons n rest ih =>
        rw [List.map_cons, List.mapM_cons, ih]
        rfl
  rw [sumOf, ofSizes, hall, hexact]
  exact if_pos h

end Amount

/-! ## Counts under labels -/

namespace Tally

variable {α : Type} [DecidableEq α] {label l : α}

theorem count_bump (t : Tally α) :
    (t.bump l).count label = t.count label + if l = label then 1 else 0 := by
  induction t with
  | nil => rw [bump, count, count, Nat.zero_add]; rfl
  | cons x rest ih =>
      rcases x with ⟨l', n⟩
      rw [bump]
      by_cases hl : l' = l
      · subst hl
        rw [if_pos rfl, count, count]
        by_cases hlabel : l' = label
        · simp only [hlabel, if_true]
        · simp only [hlabel, if_false, Nat.add_zero]
      · rw [if_neg hl, count, count, ih]
        by_cases hlabel : l' = label
        · have hne : l ≠ label := fun heq => hl (hlabel.trans heq.symm)
          simp only [hlabel, hne, if_true, if_false, Nat.add_zero]
        · simp only [hlabel, if_false]

/-- The counts that were added to those of an earlier tally. -/
def since (before after : Tally α) : Tally α :=
  after.map fun x => (x.1, x.2 - before.count x.1)

theorem count_since (before after : Tally α) :
    (since before after).count label = after.count label - before.count label := by
  induction after with
  | nil => exact (Nat.zero_sub _).symm
  | cons x rest ih =>
      rcases x with ⟨l', n⟩
      rw [since, List.map_cons, count, count]
      by_cases hlabel : l' = label
      · simp only [hlabel, if_true]
      · simp only [hlabel, if_false]
        exact ih

end Tally

namespace Metrics

/-- A started campaign is counted in any case, and its size if it is a number for a
    double. -/
theorem fst_campaignStarted (m : Metrics) (n : Nat) :
    (m.campaignStarted (.whole n)).1 =
      { m.dispatchBegun with fanouts := m.fanouts ++ Amount.ofSizes [n] } := by
  have hnegative : (Amount.whole n).isNegative = false := by
    rw [Amount.isNegative]
    exact decide_eq_false (Int.not_lt.2 (Int.natCast_nonneg n))
  have hdouble : (Amount.whole n).toDouble = Double.ofInt n := by rw [Amount.toDouble]
  rw [campaignStarted, hnegative, hdouble, Amount.ofSizes, List.filter_cons,
    List.filter_nil]
  generalize (Double.ofInt n).isInfinite = beyond
  cases beyond <;>
    simp only [Bool.true_and, Bool.not_true, Bool.not_false, if_true, if_false, Bool.false_eq_true,
      List.map_nil, List.map_cons, List.append_nil]
  rfl

/-- What was counted between two readings. -/
def since (before after : Metrics) : Metrics where
  campaignsCreated := after.campaignsCreated - before.campaignsCreated
  campaignsStarted := after.campaignsStarted - before.campaignsStarted
  campaignsCompleted := after.campaignsCompleted - before.campaignsCompleted
  campaignsSending := after.campaignsSending - before.campaignsSending
  fanouts := after.fanouts.drop before.fanouts.length
  receiptsRecorded := Tally.since before.receiptsRecorded after.receiptsRecorded
  receiptsDropped := Tally.since before.receiptsDropped after.receiptsDropped
  requests := Tally.since before.requests after.requests

end Metrics

/-! ## What a step of a call counts -/

variable {w : World Memory}

/-- Whatever becomes of a change of the store, it counts nothing. -/
theorem Memory.ends_change_metrics {α : Type}
    (f : Memory → Timestamp → Except Fault (Memory × α)) :
    Action.Ends (change f) w (fun _ v => v.metrics = w.metrics) fun _ v =>
      v.metrics = w.metrics := by
  cases h : f w.store w.time with
  | error e => rw [ends_change_of_error h]
  | ok x => rw [ends_change_of_ok h]

namespace Customers

theorem advance_metrics (args : NewCustomer) (s : Stage) :
    Action.Ends (advance args s) w (fun _ v => v.metrics = w.metrics) fun _ v =>
      v.metrics = w.metrics := by
  cases s with
  | drafting =>
      simp only [advance, draft, Action.ends_bind, Action.ends_freshId, Action.ends_now,
        Action.ends_ofExcept, Action.ends_pure, implies_true, and_self]
  | checking c =>
      simp only [advance, ensureNew, Action.ends_bind, Action.ends_capture,
        Repository.customerByEmail, Memory.ends_ask_ok, Action.ends_ite, Action.ends_throw,
        Action.ends_pure, implies_true, and_self]
  | storing c =>
      simp only [advance, announce, Action.ends_bind, Action.ends_capture, Action.ends_throw,
        Action.ends_note, Action.ends_pure]
      exact Memory.ends_change_metrics _

end Customers

namespace Orders

theorem advance_metrics (args : NewOrder) (s : Stage) :
    Action.Ends (advance args s) w (fun _ v => v.metrics = w.metrics) fun _ v =>
      v.metrics = w.metrics := by
  cases s with
  | drafting =>
      simp only [advance, draft, Action.ends_bind, Action.ends_freshId, Action.ends_now,
        Action.ends_ofExcept, Action.ends_pure, implies_true, and_self]
  | storing o arrival =>
      simp only [advance, Action.ends_bind, Repository.saveOrder, Memory.ends_put,
        Action.ends_pure]
  | applying o stored arrival =>
      simp only [advance, apply, Action.ends_bind, Repository.applyOrder, Action.ends_get,
        Action.ends_set, Action.ends_ofExcept, Action.ends_ite, Action.ends_note,
        Action.ends_pure, implies_true, and_self]

end Orders

namespace Campaigns

/-- What a step of creating a campaign counts. -/
def measured : Stage → Progress Stage Campaign → Metrics → Metrics
  | .storing _ _, .returned _ => Metrics.campaignCreated
  | _, _ => id

theorem measured_raised (s : Stage) (f : Fault) (m : Metrics) : measured s (.raised f) m = m := by
  cases s <;> rfl

/-- Creating a campaign counts no receipts. -/
theorem measured_receipts (s : Stage) (p : Progress Stage Campaign) (m : Metrics) :
    (measured s p m).receiptsRecorded = m.receiptsRecorded ∧
      (measured s p m).receiptsDropped = m.receiptsDropped := by
  unfold measured
  split <;> exact ⟨rfl, rfl⟩

theorem advance_metrics (args : NewCampaign) (s : Stage) :
    Action.Ends (advance args s) w (fun p v => v.metrics = measured s p w.metrics) fun f v =>
      v.metrics = measured s (.raised f) w.metrics := by
  simp only [measured_raised]
  cases s with
  | compiling =>
      simp only [advance, compileAt, Action.ends_bind, Action.ends_now, Action.ends_ofExcept,
        Action.ends_pure, measured, id, implies_true, and_self]
  | counting p =>
      simp only [advance, Audience.count, Audience.query, Action.ends_bind, Action.ends_capture,
        Memory.ends_unitOfWork, Repository.countMatching, Memory.ends_ask, Action.ends_pure,
        Action.ends_note, Action.ends_ite, Action.ends_throw, measured, id, implies_true, and_self]
  | drafting size =>
      simp only [advance, draft, Action.ends_bind, Action.ends_ofExcept, Action.ends_freshId,
        Action.ends_now, Action.ends_pure, measured, id, implies_true, and_self]
  | storing c size =>
      simp only [advance, announce, Action.ends_bind, Memory.ends_unitOfWork,
        Repository.saveCampaign, Memory.ends_put, Action.ends_pure, Action.ends_measure,
        Action.ends_note, measured]

end Campaigns

namespace Dispatch

/-- What is counted when a number of records has been stored. -/
def announced (recipients : Nat) (m : Metrics) : Metrics :=
  (m.campaignStarted (.whole recipients)).1

theorem announced_eq_fst (recipients : Nat) :
    announced recipients = fun m => (m.campaignStarted (.whole recipients)).1 := rfl

theorem announced_eq (recipients : Nat) (m : Metrics) :
    announced recipients m =
      { m.dispatchBegun with fanouts := m.fanouts ++ Amount.ofSizes [recipients] } :=
  (congrFun (announced_eq_fst recipients) m).trans (Metrics.fst_campaignStarted m recipients)

/-- What a step of a dispatch counts. -/
def measured : Stage → Progress Stage (List DeliveryRecord) → Metrics → Metrics
  | .storing _ _, .underway (.handing records _) => announced records.length
  | .closing _ true, .returned _ => Metrics.campaignCompleted
  | _, _ => id

theorem measured_raised (s : Stage) (f : Fault) (m : Metrics) : measured s (.raised f) m = m := by
  cases s with
  | closing records completed => cases completed <;> rfl
  | _ => rfl

/-- Starting a campaign counts no receipts. -/
theorem measured_receipts (s : Stage) (p : Progress Stage (List DeliveryRecord)) (m : Metrics) :
    (measured s p m).receiptsRecorded = m.receiptsRecorded ∧
      (measured s p m).receiptsDropped = m.receiptsDropped := by
  unfold measured
  split
  · rw [announced_eq]
    exact ⟨rfl, rfl⟩
  · exact ⟨rfl, rfl⟩
  · exact ⟨rfl, rfl⟩

/-- Drafting records counts nothing. -/
theorem ends_draft_metrics (id : Uuid) (template : Text) (customers : List Customer) :
    ∀ w : World Memory, Action.Ends (draft id template customers) w
      (fun _ v => v.metrics = w.metrics) fun _ v => v.metrics = w.metrics := by
  induction customers with
  | nil => exact fun _ => rfl
  | cons c rest ih =>
      intro w
      simp only [draft, List.mapM_cons, draftOne, Action.ends_bind, Action.ends_freshId,
        Action.ends_now, Action.ends_pure, implies_true, and_true]
      exact fun _ _ => ih { w with drawn := w.drawn + 1 }

theorem ends_announce_metrics (id : Uuid) (recipients : Nat) :
    Action.Ends (announce id recipients) w
      (fun _ v => v.metrics = announced recipients w.metrics) fun _ _ => False := by
  simp only [announce, ← announced_eq_fst, Action.ends_bind, Action.ends_measure, Action.ends_get,
    Action.ends_note]

theorem advance_metrics {args : NewDispatch} (s : Stage) :
    Action.Ends (advance args s) w (fun p v => v.metrics = measured s p w.metrics) fun f v =>
      v.metrics = measured s (.raised f) w.metrics := by
  simp only [measured_raised]
  cases s with
  | compiling =>
      simp only [advance, compileAt, Action.ends_bind, Action.ends_now, Action.ends_ofExcept,
        Action.ends_pure, measured, id, implies_true, and_self]
  | claiming p =>
      simp only [advance, mark, Action.ends_bind, Action.ends_capture, Repository.markSending]
      refine (Memory.ends_change_metrics _).mono (fun c v hv => ?_) fun f v hv => ?_
      · cases c with
        | none => exact hv
        | some c => exact hv
      · cases f with
        | entityNotFound => exact hv
        | _ => exact hv
  | refusing =>
      simp only [advance, refuse, Action.ends_bind, Repository.campaignById, Memory.ends_ask_ok,
        Action.ends_throw]
  | resolving campaign p =>
      simp only [advance, tryResolve, Audience.resolve, Audience.query, Action.ends_bind,
        Action.ends_capture, Memory.ends_unitOfWork, Repository.findMatching, Memory.ends_ask,
        Action.ends_pure, Action.ends_note, Action.ends_ite, Action.ends_throw, measured,
        id, implies_true, true_and]
      intro e _ _
      cases e with
      | resolverUnavailable reason =>
          simp only [Action.ends_bind, Action.ends_note, Action.ends_pure]
      | _ => simp only [Action.ends_throw]
  | releasing f =>
      simp only [advance, release, Action.ends_bind, Memory.ends_unitOfWork,
        Repository.releaseToPending, Action.ends_throw]
      exact Memory.ends_change_metrics _
  | drafting campaign customers =>
      simp only [advance, noteChange, Action.ends_bind, Action.ends_ite, Action.ends_note,
        Action.ends_pure, measured, id]
      exact ⟨fun _ => ends_draft_metrics _ _ _ _, fun _ => ends_draft_metrics _ _ _ _⟩
  | storing customers records =>
      simp only [advance, tryStore, Action.ends_bind, Action.ends_capture, Memory.ends_unitOfWork,
        Repository.saveRecords]
      refine (Memory.ends_change_metrics _).mono (fun stored v hv => ?_) fun f v hv => ?_
      · simp only [Action.ends_pure, Action.ends_bind, measured, ← hv]
        exact (ends_announce_metrics _ _).mono (fun _ _ h => h) fun _ _ h => h.elim
      · simp only [Action.ends_ite, Action.ends_bind, Action.ends_note, Action.ends_pure,
          Action.ends_throw, hv, measured, id, implies_true, and_self]
  | handing records rest =>
      cases rest with
      | nil =>
          simp only [advance, Action.ends_bind, Memory.ends_unitOfWork,
            Repository.completeIfExhausted, Action.ends_pure, measured, id]
          exact Memory.ends_change_metrics _
      | cons x rest =>
          simp only [advance, Action.send, Action.ends_bind, Action.ends_get, Action.ends_ite,
            Action.ends_set, Action.ends_throw, Action.ends_pure, measured, id, implies_true,
            and_self]
  | closing records completed =>
      cases completed <;>
      simp only [advance, noteCompletion, Action.ends_bind, Action.ends_ite, Action.ends_measure,
        Action.ends_note, Action.ends_pure, measured, id, implies_true, not_true_eq_false,
        Bool.false_eq_true, false_implies, and_self]

end Dispatch

namespace Receipts

/-- What a step of a receipt counts. -/
def measured (args : Receipt) : Stage → Progress Stage ReceiptResult → Metrics → Metrics
  | .finding, .raised _ => fun m => m.receiptDropped "unknown"
  | .settling _, .returned _ => fun m => m.receiptDropped "duplicate"
  | .counting _, .returned result => fun m =>
    let recorded := m.receiptRecorded args.outcome.text
    if result.completed then recorded.campaignCompleted else recorded
  | _, _ => id

theorem advance_metrics {args : Receipt} (s : Stage) :
    Action.Ends (advance args s) w (fun p v => v.metrics = measured args s p w.metrics) fun f v =>
      v.metrics = measured args s (.raised f) w.metrics := by
  cases s with
  | checking =>
      simp only [advance, ensureOutcome, Action.ends_bind, Action.ends_ite, Action.ends_throw,
        Action.ends_pure, measured, id, implies_true, and_self]
  | finding =>
      simp only [advance, find, Action.ends_bind, Repository.recordById, Memory.ends_ask_ok]
      cases lookUp DeliveryRecord.id args.recordId w.store.tables.records with
      | none => exact rfl
      | some r => exact rfl
  | settling record =>
      simp only [advance, settle, Action.ends_bind, Action.ends_capture, Repository.settleRecord]
      refine (Memory.ends_change_metrics _).mono (fun settled v hv => ?_) fun f v hv => ?_
      · simp only [Action.ends_pure, Action.ends_ite, Action.ends_bind, noteDuplicate,
          Action.ends_measure, Action.ends_note, measured, hv, id, implies_true, and_self]
      · cases f <;> exact hv
  | counting record =>
      simp only [advance, Action.ends_bind, Repository.recordOutcome]
      refine (Memory.ends_change_metrics _).mono ?_ fun _ _ h => h
      intro update v hv
      simp only [noteUpdate, Action.ends_bind, Action.ends_measure, Action.ends_ite,
        Action.ends_note, Action.ends_pure, measured, hv]
      rcases update with ⟨counted, completed⟩
      cases counted <;> cases completed <;> simp

end Receipts

namespace Run

namespace Task

/-- What a step of a call counts. -/
def measured : Task → Task → Metrics → Metrics
  | campaign _ (.underway s), campaign _ p => Campaigns.measured s p
  | dispatch _ (.underway s), dispatch _ p => Dispatch.measured s p
  | receipt args (.underway s), receipt _ p => Receipts.measured args s p
  | _, _ => id

/-- The metrics after a step of any call. -/
theorem metrics_advance (t : Task) :
    (t.advance w).2.metrics = t.measured (t.advance w).1 w.metrics := by
  cases t with
  | customer args p =>
      cases p with
      | underway s =>
          exact Progress.holds_after (R := fun _ v => v.metrics = w.metrics)
            (Customers.advance_metrics args s)
      | _ => rfl
  | order args p =>
      cases p with
      | underway s =>
          exact Progress.holds_after (R := fun _ v => v.metrics = w.metrics)
            (Orders.advance_metrics args s)
      | _ => rfl
  | campaign args p =>
      cases p with
      | underway s =>
          exact Progress.holds_after (R := fun p v => v.metrics = Campaigns.measured s p w.metrics)
            (Campaigns.advance_metrics args s)
      | _ => rfl
  | dispatch args p =>
      cases p with
      | underway s =>
          exact Progress.holds_after (R := fun p v => v.metrics = Dispatch.measured s p w.metrics)
            (Dispatch.advance_metrics s)
      | _ => rfl
  | receipt args p =>
      cases p with
      | underway s =>
          exact Progress.holds_after
            (R := fun p v => v.metrics = Receipts.measured args s p w.metrics)
            (Receipts.advance_metrics s)
      | _ => rfl

end Task

end Run

end Outreach
