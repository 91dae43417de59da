import Outreach.Delivery.Record
import Outreach.Proofs.Lifecycle.Campaign

/-!
# The Life of a Delivery Record

A record is settled by the first outcome that is reported for it and stays as it is from
then on. Nothing but its state and the time of the change is ever written.

## Main definitions

* `DeliveryRecord.settleInPlace`: Settling a record, assignment by assignment.
* `DeliveryRecord.first`: A record after the first outcome among some words.
* `DeliveryRecord.Lifecycle`: How calls in a row deal with a record.

## Theorems

* `DeliveryRecord.settleInPlace_eq`: In place, a record is settled as computed beforehand.
* `DeliveryRecord.afterAll_eq_first`: Only the first outcome settles a record.
* `lifecycles_under_calls`: The lives of campaigns and of records.
-/

namespace Outreach

namespace DeliveryRecord

/-- Settle a pending record. -/
def settleInPlace (call : DeliveryStatus × Timestamp) : Edit DeliveryRecord Bool := do
  if !call.1.isOutcome then throw (.notAnOutcome call.1.qualified)
  let r ← get
  if r.status ≠ .pending then return false
  modify fun r => { r with status := call.1 }
  modify fun r => { r with updatedAt := call.2 }
  return true

/-- In place, a record is settled as computed beforehand: all is written or nothing. -/
theorem settleInPlace_eq (r : DeliveryRecord) (call : DeliveryStatus × Timestamp) :
    settleInPlace call r = Edit.written r (r.settle call.1 call.2) := by
  rw [settle]
  by_cases ho : call.1.isOutcome <;> by_cases hs : r.status = .pending <;>
    simp [settleInPlace, Edit.written, ho, hs]

/-- The things that a call can do. -/
inductive Effect (call : DeliveryStatus × Timestamp) (r : DeliveryRecord) :
    EStateM.Result Fault DeliveryRecord Bool → Prop
  | failed (f : Fault) (ho : ¬call.1.isOutcome) : Effect call r (.error f r)
  | late (ho : call.1.isOutcome) (hs : r.status ≠ .pending) : Effect call r (.ok false r)
  | settled (ho : call.1.isOutcome) (hs : r.status = .pending) :
    Effect call r (.ok true { r with status := call.1, updatedAt := call.2 })

theorem effect (call : DeliveryStatus × Timestamp) (r : DeliveryRecord) :
    Effect call r (settleInPlace call r) := by
  rw [settleInPlace_eq, settle]
  cases ho : call.1.isOutcome with
  | false => exact .failed _ (by rw [ho]; exact Bool.false_ne_true)
  | true =>
      by_cases hs : r.status = .pending
      · rw [if_neg (not_not_intro hs)]
        exact .settled ho hs
      · rw [if_pos hs]
        exact .late ho hs

/-! ## Calls in a row -/

/-- What later states of a record keep of earlier ones: everything but the state and the
    time of the change. -/
structure Keeps (r s : DeliveryRecord) : Prop where
  id : s.id = r.id
  campaignId : s.campaignId = r.campaignId
  customerId : s.customerId = r.customerId
  customerEmail : s.customerEmail = r.customerEmail
  message : s.message = r.message
  createdAt : s.createdAt = r.createdAt

theorem Keeps.refl (r : DeliveryRecord) : Keeps r r :=
  ⟨rfl, rfl, rfl, rfl, rfl, rfl⟩

theorem Keeps.trans {r s t : DeliveryRecord} (h : Keeps r s) (h' : Keeps s t) : Keeps r t :=
  ⟨h'.id.trans h.id, h'.campaignId.trans h.campaignId, h'.customerId.trans h.customerId,
    h'.customerEmail.trans h.customerEmail, h'.message.trans h.message,
    h'.createdAt.trans h.createdAt⟩

theorem keeps_left (call : DeliveryStatus × Timestamp) (r : DeliveryRecord) :
    Keeps r ((settleInPlace call).left r) := by
  have heffect := effect call r
  rw [Edit.left]
  generalize settleInPlace call r = x at heffect ⊢
  cases heffect with
  | failed f ho => exact .refl r
  | late ho hs => exact .refl r
  | settled ho hs => exact ⟨rfl, rfl, rfl, rfl, rfl, rfl⟩

/-- A settled record is left as it is. -/
theorem left_of_settled {r : DeliveryRecord} (h : r.status ≠ .pending)
    (call : DeliveryStatus × Timestamp) : (settleInPlace call).left r = r := by
  have heffect := effect call r
  rw [Edit.left]
  generalize settleInPlace call r = x at heffect ⊢
  cases heffect with
  | failed f ho => rfl
  | late ho hs => rfl
  | settled ho hs => exact absurd hs h

/-- A record after calls in a row, of which only the first with an outcome matters, and only
    if the record is pending. -/
def first (r : DeliveryRecord) (calls : List (DeliveryStatus × Timestamp)) : DeliveryRecord :=
  match calls.find? fun call => call.1.isOutcome with
  | some call => if r.status = .pending then { r with status := call.1, updatedAt := call.2 } else r
  | none => r

/-- Only the first outcome settles a record. -/
theorem afterAll_eq_first (r : DeliveryRecord) (calls : List (DeliveryStatus × Timestamp)) :
    Edit.afterAll settleInPlace r calls = r.first calls := by
  induction calls with
  | nil => rfl
  | cons call rest ih =>
      have heffect := effect call r
      rw [Edit.afterAll, List.foldl_cons, ← Edit.afterAll, first, List.find?_cons, Edit.left]
      generalize settleInPlace call r = x at heffect ⊢
      cases heffect with
      | failed f ho =>
          rw [Bool.not_eq_true] at ho
          simp only [ho]
          exact ih
      | late ho hs =>
          simp only [ho, if_neg hs]
          exact Edit.afterAll_eq (left_of_settled hs) rest
      | settled ho hs =>
          simp only [ho, if_pos hs]
          exact Edit.afterAll_eq (left_of_settled (DeliveryStatus.ne_pending_of_isOutcome ho)) rest

/-- Whether an answer reports that the record was settled. -/
def settles : Except Fault Bool → Bool
  | .ok happened => happened
  | .error _ => false

/-- The calls that report it are those that settle a record. -/
theorem settles_iff (call : DeliveryStatus × Timestamp) (r : DeliveryRecord) :
    settles ((settleInPlace call).answer r) = true ↔
      ¬r.status ≠ .pending ∧ ((settleInPlace call).left r).status ≠ .pending := by
  have heffect := effect call r
  rw [Edit.left, Edit.answer]
  generalize settleInPlace call r = x at heffect ⊢
  cases heffect with
  | failed f ho => exact iff_of_false Bool.false_ne_true fun h => h.1 h.2
  | late ho hs => exact iff_of_false Bool.false_ne_true fun h => h.1 h.2
  | settled ho hs =>
      exact iff_of_true rfl ⟨not_not_intro hs, DeliveryStatus.ne_pending_of_isOutcome ho⟩

/-- How a call deals with a record. -/
structure Settling (r : DeliveryRecord) (call : DeliveryStatus × Timestamp) : Prop where
  /-- In place it does what it gives when computed beforehand. -/
  inPlace : settleInPlace call r = Edit.written r (r.settle call.1 call.2)
  failed : ∀ f s, settleInPlace call r = .error f s → s = r
  late : ∀ s, settleInPlace call r = .ok false s → s = r

/-- How calls in a row deal with a record. -/
structure Lifecycle (r : DeliveryRecord) (calls : List (DeliveryStatus × Timestamp)) : Prop where
  keeps : ∀ earlier, earlier <+: calls →
    Keeps (Edit.afterAll settleInPlace r earlier) (Edit.afterAll settleInPlace r calls)
  /-- A settled record stays as it is for ever. -/
  final : ∀ earlier, earlier <+: calls →
    (Edit.afterAll settleInPlace r earlier).status ≠ .pending →
      Edit.afterAll settleInPlace r calls = Edit.afterAll settleInPlace r earlier
  first : Edit.afterAll settleInPlace r calls = r.first calls
  once : (Edit.answers settleInPlace r calls).countP settles ≤ 1
  settled : (Edit.answers settleInPlace r calls).countP settles = 1 ↔
    r.status = .pending ∧ (Edit.afterAll settleInPlace r calls).status ≠ .pending

theorem settling (r : DeliveryRecord) (call : DeliveryStatus × Timestamp) : Settling r call := by
  refine ⟨settleInPlace_eq r call, fun f s h => ?_, fun s h => ?_⟩
  all_goals
    have heffect := effect call r
    rw [h] at heffect
    cases heffect
    rfl

theorem lifecycle (r : DeliveryRecord) (calls : List (DeliveryStatus × Timestamp)) :
    Lifecycle r calls := by
  have hcount := Edit.countP_answers (s := r)
    (fun call r (h : r.status ≠ .pending) => left_of_settled h call) settles_iff calls
  refine ⟨?_, ?_, afterAll_eq_first r calls, hcount.1, ?_⟩
  · rintro earlier ⟨later, rfl⟩
    rw [Edit.afterAll_append]
    exact Edit.afterAll_rel Keeps.refl Keeps.trans keeps_left later
  · rintro earlier ⟨later, rfl⟩ hsettled
    rw [Edit.afterAll_append]
    exact Edit.afterAll_eq (left_of_settled hsettled) later
  · rw [hcount.2, not_not]

end DeliveryRecord

/-- The lives of campaigns and of records under the calls that change them, whatever their
    state and their counters are in the beginning. -/
theorem lifecycles_under_calls :
    (∀ (c : Campaign) (call : Campaign.Call), call.Lawful c) ∧
      (∀ (c : Campaign) (calls : List Campaign.Call), c.Lifecycle calls) ∧
      (∀ (r : DeliveryRecord) (call : DeliveryStatus × Timestamp), r.Settling call) ∧
      ∀ (r : DeliveryRecord) (calls : List (DeliveryStatus × Timestamp)), r.Lifecycle calls :=
  ⟨fun c call => call.lawful c, Campaign.lifecycle, fun r call => r.settling call,
    DeliveryRecord.lifecycle⟩

end Outreach
