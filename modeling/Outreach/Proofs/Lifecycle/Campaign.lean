import Mathlib.Data.List.Basic
import Outreach.Fault
import Outreach.Proofs.Campaign.Counters

/-!
# The Life of a Campaign

The calls that change a campaign, as they do it in place, in any order and any number, on
a campaign in any state and with any counters. Each of them looks before it writes, so one
that fails or finds nothing to do has written nothing.

## Main definitions

* `Edit`: A change in place.
* `Edit.left`: The object that it leaves behind.
* `Edit.afterAll`, `Edit.answers`: Calls in a row.
* `Edit.written`: What an outcome computed beforehand amounts to.
* `Campaign.Call`: A call on a campaign.
* `Campaign.Call.edit`: What it does, assignment by assignment.
* `Campaign.Call.outcome`: What it gives, computed beforehand.
* `Campaign.Call.Effect`: The things that a call can do.
* `Campaign.Keeps`: What later states of a campaign keep of earlier ones.
* `Campaign.Call.Lawful`, `Campaign.Lifecycle`: How one call and calls in a row deal with a
  campaign.

## Theorems

* `Edit.afterAll_rel`: What every call keeps, calls in a row keep.
* `Edit.afterAll_eq`: What no call changes, calls in a row do not change.
* `Edit.countP_answers`: At most one answer tells of an object that gets to where it stays.
* `Campaign.Call.edit_eq`: A call in place is the outcome computed beforehand.
* `Campaign.Call.effect`: A call does one of these things.
* `Campaign.Call.keeps`, `Campaign.Call.left_of_completed`, `Campaign.Call.completes_iff`:
  What follows for the campaign and for the answer.
* `Campaign.lifecycle`: What follows for calls in a row.
-/

namespace Outreach

/-! ## Objects under calls

An object that calls change in place, one assignment after another. A call that fails
keeps the assignments that it made before. What every call does to every object is thus a
statement about all sequences of calls, of any length and whatever fails in between. -/

/-- A change to an object, one assignment after another. -/
abbrev Edit (σ α : Type) := EStateM Fault σ α

namespace Edit

variable {σ α β κ : Type}

@[simp] theorem bind_apply (x : Edit σ α) (f : α → Edit σ β) (s : σ) : (x >>= f) s =
    match x s with
    | .ok a t => f a t
    | .error e t => .error e t := by
  change EStateM.bind x f s = _
  rw [EStateM.bind]
  cases x s <;> rfl

@[simp] theorem map_apply (x : Edit σ α) (f : α → β) (s : σ) : (f <$> x) s =
    match x s with
    | .ok a t => .ok (f a) t
    | .error e t => .error e t := by
  change EStateM.map f x s = _
  rw [EStateM.map]
  cases x s <;> rfl

@[simp] theorem pure_apply (a : α) (s : σ) : (pure a : Edit σ α) s = .ok a s := rfl

@[simp] theorem throw_apply (f : Fault) (s : σ) : (throw f : Edit σ α) s = .error f s := rfl

@[simp] theorem get_apply (s : σ) : (get : Edit σ σ) s = .ok s s := rfl

@[simp] theorem modify_apply (f : σ → σ) (s : σ) : (modify f : Edit σ Unit) s = .ok () (f s) := rfl

@[simp] theorem ite_apply (p : Prop) [Decidable p] (x y : Edit σ α) (s : σ) :
    (if p then x else y) s = if p then x s else y s := by
  split <;> rfl

/-- The object that a change leaves behind, be it done or given up. -/
def left (x : Edit σ α) (s : σ) : σ :=
  match x s with
  | .ok _ t => t
  | .error _ t => t

/-- What a change has for an answer. -/
def answer (x : Edit σ α) (s : σ) : Except Fault α :=
  match x s with
  | .ok a _ => .ok a
  | .error f _ => .error f

/-- An object after calls in a row. -/
def afterAll (edit : κ → Edit σ α) (s : σ) (calls : List κ) : σ :=
  calls.foldl (fun s call => (edit call).left s) s

/-- The answers to calls in a row. -/
def answers (edit : κ → Edit σ α) (s : σ) : List κ → List (Except Fault α)
  | [] => []
  | call :: rest => (edit call).answer s :: answers edit ((edit call).left s) rest

/-- What an outcome computed beforehand amounts to: the object is replaced, or it is left
    as it is. -/
def written (s : σ) : Except Fault (σ × α) → EStateM.Result Fault σ α
  | .ok (t, a) => .ok a t
  | .error f => .error f s

variable {edit : κ → Edit σ α} {s : σ}

theorem afterAll_append (edit : κ → Edit σ α) (s : σ) (earlier later : List κ) :
    afterAll edit s (earlier ++ later) = afterAll edit (afterAll edit s earlier) later :=
  List.foldl_append

/-- What every call keeps, calls in a row keep. -/
theorem afterAll_rel {R : σ → σ → Prop} (hrefl : ∀ s, R s s)
    (htrans : ∀ {s t u}, R s t → R t u → R s u) (hstep : ∀ call s, R s ((edit call).left s))
    (calls : List κ) : R s (afterAll edit s calls) := by
  induction calls generalizing s with
  | nil => exact hrefl s
  | cons call rest ih => exact htrans (hstep call s) ih

/-- An object that no call changes stays as it is. -/
theorem afterAll_eq (h : ∀ call, (edit call).left s = s) (calls : List κ) :
    afterAll edit s calls = s := by
  induction calls with
  | nil => rfl
  | cons call rest ih =>
      rw [afterAll, List.foldl_cons, h call]
      exact ih

/-- Where answers tell of objects that get to where they stay, at most one of them does, and
    one does just if the object was not there in the beginning and is there in the end. -/
theorem countP_answers {tells : Except Fault α → Bool} {there : σ → Prop}
    (hstays : ∀ call s, there s → (edit call).left s = s)
    (htells : ∀ call s,
      tells ((edit call).answer s) = true ↔ ¬there s ∧ there ((edit call).left s))
    (calls : List κ) :
    (answers edit s calls).countP tells ≤ 1 ∧
      ((answers edit s calls).countP tells = 1 ↔ ¬there s ∧ there (afterAll edit s calls)) := by
  induction calls generalizing s with
  | nil => exact ⟨Nat.zero_le 1, iff_of_false Nat.zero_ne_one fun h => h.1 h.2⟩
  | cons call rest ih =>
      rw [answers, List.countP_cons, afterAll, List.foldl_cons, ← afterAll]
      rcases ih (s := (edit call).left s) with ⟨hle, hone⟩
      by_cases htell : tells ((edit call).answer s) = true
      -- The object has got there, and no later answer tells of it.
      · have hthere := (htells call s).1 htell
        have hnone : (answers edit ((edit call).left s) rest).countP tells = 0 := by
          by_contra hne
          exact (hone.1 (by omega)).1 hthere.2
        rw [hnone, if_pos htell, afterAll_eq fun call' => hstays call' _ hthere.2]
        exact ⟨Nat.le_refl 1, iff_of_true rfl hthere⟩
      -- Otherwise it is there just if it was before.
      · have hsame : there ((edit call).left s) ↔ there s := by
          refine ⟨fun h => ?_, fun h => (hstays call s h).symm ▸ h⟩
          by_contra hs
          exact htell ((htells call s).2 ⟨hs, h⟩)
        rw [if_neg htell, Nat.add_zero, ← hsame]
        exact ⟨hle, hone⟩

end Edit

/-! ## The life of a campaign -/

namespace Campaign

/-! ## Calls in place -/

/-- Note the time of a change. -/
def touch (now : Timestamp) : Edit Campaign Unit :=
  modify fun c => { c with updatedAt := now }

/-- Put a campaign into a state. -/
def enter (status : CampaignStatus) (now : Timestamp) : Edit Campaign Unit := do
  modify fun c => { c with status := status }
  touch now

/-- Start a pending campaign. -/
def startInPlace (now : Timestamp) : Edit Campaign Unit := do
  let c ← get
  if c.status ≠ .pending then throw (.alreadyStarted c.id (some c.status))
  enter .sending now

/-- Put a campaign that is being sent back. -/
def releaseInPlace (now : Timestamp) : Edit Campaign Unit := do
  let c ← get
  if c.status ≠ .sending then throw (.wrongState .sending c.status)
  if c.outcomeCount ≠ 0 then throw (.hasOutcomes c.id)
  enter .pending now

/-- Complete a campaign that is being sent and exhausted. -/
def completeInPlace (now : Timestamp) : Edit Campaign Bool := do
  let c ← get
  if c.status ≠ .sending ∨ !c.isExhausted then return false
  enter .completed now
  return true

/-- Count an outcome, and complete the campaign if it was the last one. -/
def recordInPlace (outcome : DeliveryStatus) (now : Timestamp) : Edit Campaign CounterUpdate := do
  if !outcome.isOutcome then throw (.notAnOutcome outcome.qualified)
  let c ← get
  if c.status ≠ .sending ∨ c.isExhausted then return ⟨false, false⟩
  if outcome = .sent then modify fun c => { c with sentCount := c.sentCount + 1 }
  else modify fun c => { c with failedCount := c.failedCount + 1 }
  touch now
  let completed ← completeInPlace now
  return ⟨true, completed⟩

/-- Count an outcome given by its word. -/
def recordWordInPlace (word : Json) (now : Timestamp) : Edit Campaign CounterUpdate :=
  match word with
  | .text t =>
    match t.string?.bind DeliveryStatus.ofText? with
    | some outcome => recordInPlace outcome now
    | none => throw (.notAnOutcome t)
  | _ => throw (.notAnOutcome word.shown)

/-- A call on a campaign. -/
inductive Operation
  | start
  | release
  | record (outcome : DeliveryStatus)
  | recordWord (word : Json)
  | complete

/-- What a call returns. -/
inductive Answer
  | done
  | update (update : CounterUpdate)
  | completed (happened : Bool)
  deriving DecidableEq

/-- A call on a campaign, with the time at which it is made. -/
structure Call where
  operation : Operation
  now : Timestamp

/-- What a call does, assignment by assignment. -/
def Call.edit (call : Call) : Edit Campaign Answer :=
  match call.operation with
  | .start => do startInPlace call.now; return .done
  | .release => do releaseInPlace call.now; return .done
  | .record outcome => do return .update (← recordInPlace outcome call.now)
  | .recordWord word => do return .update (← recordWordInPlace word call.now)
  | .complete => do return .completed (← completeInPlace call.now)

/-- What a call gives: the campaign afterwards and the answer. -/
def Call.outcome (call : Call) (c : Campaign) : Except Fault (Campaign × Answer) :=
  match call.operation with
  | .start => do return (← c.startSending call.now, .done)
  | .release => do return (← c.release call.now, .done)
  | .record outcome => do
    let (after, update) ← c.recordOutcome outcome call.now
    return (after, .update update)
  | .recordWord word => do
    let (after, update) ← c.recordWord word call.now
    return (after, .update update)
  | .complete =>
    let (after, happened) := c.completeIfExhausted call.now
    return (after, .completed happened)

variable {c : Campaign} {now : Timestamp}

theorem startInPlace_eq (c : Campaign) (now : Timestamp) : startInPlace now c =
    Edit.written c ((fun after => (after, ())) <$> c.startSending now) := by
  rw [startSending]
  by_cases h : c.status = .pending <;>
    simp [startInPlace, enter, touch, Edit.written, h]

theorem releaseInPlace_eq (c : Campaign) (now : Timestamp) : releaseInPlace now c =
    Edit.written c ((fun after => (after, ())) <$> c.release now) := by
  rw [release]
  by_cases hs : c.status = .sending <;> by_cases ho : c.outcomeCount = 0 <;>
    simp [releaseInPlace, enter, touch, Edit.written, hs, ho]

theorem completeInPlace_eq (c : Campaign) (now : Timestamp) : completeInPlace now c =
    Edit.written c (.ok (c.completeIfExhausted now)) := by
  rw [completeIfExhausted]
  by_cases hs : c.status = .sending <;> by_cases he : c.isExhausted = true <;>
    simp [completeInPlace, enter, touch, Edit.written, hs, he]

theorem recordInPlace_eq (c : Campaign) (outcome : DeliveryStatus) (now : Timestamp) :
    recordInPlace outcome now c = Edit.written c (c.recordOutcome outcome now) := by
  rw [recordOutcome]
  cases ho : outcome.isOutcome with
  | false => simp [recordInPlace, Edit.written, ho]
  | true =>
      by_cases hopen : c.status ≠ .sending ∨ c.isExhausted = true
      · simp [recordInPlace, Edit.written, ho, hopen]
      -- The outcome is counted, and the campaign is looked at once more.
      · cases outcome <;>
          simp [recordInPlace, touch, Edit.written, ho, hopen, count, completeInPlace_eq]

theorem recordWordInPlace_eq (c : Campaign) (word : Json) (now : Timestamp) :
    recordWordInPlace word now c = Edit.written c (c.recordWord word now) := by
  cases word with
  | text t =>
      simp only [recordWordInPlace, recordWord]
      cases t.string?.bind DeliveryStatus.ofText? with
      | none => rfl
      | some outcome => exact recordInPlace_eq c outcome now
  | _ => rfl

/-- A call in place is the outcome computed beforehand: it writes all of it or nothing. -/
theorem Call.edit_eq (call : Call) (c : Campaign) :
    call.edit c = Edit.written c (call.outcome c) := by
  rcases call with ⟨operation, now⟩
  cases operation with
  | start =>
      simp only [edit, outcome, Edit.bind_apply, startInPlace_eq]
      cases c.startSending now <;> rfl
  | release =>
      simp only [edit, outcome, Edit.bind_apply, releaseInPlace_eq]
      cases c.release now <;> rfl
  | record outcome =>
      simp only [edit, Call.outcome, Edit.bind_apply, recordInPlace_eq]
      cases c.recordOutcome outcome now <;> rfl
  | recordWord word =>
      simp only [edit, Call.outcome, Edit.bind_apply, recordWordInPlace_eq]
      cases c.recordWord word now <;> rfl
  | complete =>
      simp only [edit, outcome, Edit.bind_apply, completeInPlace_eq]
      rfl

/-! ## What one call does -/

/-- The things that a call can do. -/
inductive Call.Effect (call : Call) (c : Campaign) :
    EStateM.Result Fault Campaign Answer → Prop
  | failed (f : Fault) : Effect call c (.error f c)
  | idle (a : Answer) (ha : a = .update ⟨false, false⟩ ∨ a = .completed false) :
    Effect call c (.ok a c)
  | started (hs : c.status = .pending) :
    Effect call c (.ok .done { c with status := .sending, updatedAt := call.now })
  | released (hs : c.status = .sending) (hnone : c.outcomeCount = 0) :
    Effect call c (.ok .done { c with status := .pending, updatedAt := call.now })
  | counted (outcome : DeliveryStatus) (hs : c.status = .sending)
      (hroom : c.outcomeCount + 1 < c.audienceSize) :
    Effect call c (.ok (.update ⟨true, false⟩) (c.count outcome call.now))
  | filled (outcome : DeliveryStatus) (hs : c.status = .sending)
      (hlast : c.outcomeCount + 1 = c.audienceSize) :
    Effect call c (.ok (.update ⟨true, true⟩)
      { c.count outcome call.now with status := .completed, updatedAt := call.now })
  | closed (hs : c.status = .sending) (hfull : c.audienceSize ≤ c.outcomeCount) :
    Effect call c (.ok (.completed true) { c with status := .completed, updatedAt := call.now })

theorem Call.effect_record (call : Call) (c : Campaign) (outcome : DeliveryStatus) :
    call.Effect c (Edit.written c ((fun x => (x.1, Answer.update x.2)) <$>
      c.recordOutcome outcome call.now)) := by
  by_cases ho : outcome.isOutcome
  · by_cases hopen : c.status = .sending ∧ c.outcomeCount < c.audienceSize
    · rcases hopen with ⟨hs, hroom⟩
      have hsize : (c.count outcome call.now).audienceSize = c.audienceSize := by
        cases outcome <;> rfl
      have hcount : (c.count outcome call.now).outcomeCount = c.outcomeCount + 1 :=
        outcomeCount_count call.now
      rw [recordOutcome_of_open call.now ho hs hroom]
      by_cases hfull : (c.count outcome call.now).audienceSize ≤
          (c.count outcome call.now).outcomeCount
      · rw [completeIfExhausted_of_open call.now ((status_count call.now).trans hs) hfull]
        exact .filled outcome hs (by omega)
      · rw [completeIfExhausted_of_not call.now fun h => hfull h.2]
        exact .counted outcome hs (by omega)
    · rw [recordOutcome_of_not call.now ho hopen]
      exact .idle _ (.inl rfl)
  · rw [recordOutcome_of_not_outcome call.now ho]
    exact .failed _

/-- A call does one of these things, and which one is up to the campaign. -/
theorem Call.effect (call : Call) (c : Campaign) : call.Effect c (call.edit c) := by
  rw [edit_eq]
  rcases call with ⟨operation, now⟩
  cases operation with
  | start =>
      rw [outcome]
      by_cases hs : c.status = .pending
      · rw [startSending, if_neg (not_not_intro hs)]
        exact .started hs
      · rw [startSending, if_pos hs]
        exact .failed _
  | release =>
      simp only [outcome, release]
      by_cases hs : c.status = .sending
      · by_cases ho : c.outcomeCount = 0
        · rw [if_neg (not_not_intro hs), if_neg (not_not_intro ho)]
          exact .released hs ho
        · rw [if_neg (not_not_intro hs), if_pos ho]
          exact .failed _
      · rw [if_pos hs]
        exact .failed _
  | record outcome => exact effect_record ⟨.record outcome, now⟩ c outcome
  | recordWord word =>
      cases word with
      | text t =>
          simp only [outcome, recordWord]
          cases t.string?.bind DeliveryStatus.ofText? with
          | none => exact .failed _
          | some outcome => exact effect_record ⟨.recordWord (.text t), now⟩ c outcome
      | _ => exact .failed _
  | complete =>
      rw [outcome]
      by_cases hopen : c.status = .sending ∧ c.audienceSize ≤ c.outcomeCount
      · rw [completeIfExhausted_of_open now hopen.1 hopen.2]
        exact .closed hopen.1 hopen.2
      · rw [completeIfExhausted_of_not now hopen]
        exact .idle _ (.inr rfl)

/-- A call that fails, that counts nothing, or that completes nothing has left the campaign
    as it was. -/
theorem Call.eq_of_idle {call : Call} {c d : Campaign} :
    (∀ f, call.edit c = .error f d → d = c) ∧
      (∀ u : CounterUpdate, call.edit c = .ok (.update u) d → u.counted = false → d = c) ∧
      (call.edit c = .ok (.completed false) d → d = c) := by
  have heffect := call.effect c
  refine ⟨fun f h => ?_, fun u h hu => ?_, fun h => ?_⟩ <;> rw [h] at heffect <;> cases heffect
  all_goals first | rfl | cases hu

theorem Call.start_iff (c : Campaign) (now : Timestamp) :
    (∃ a d, (⟨.start, now⟩ : Call).edit c = .ok a d) ↔ c.status = .pending := by
  rw [Call.edit_eq, outcome, startSending]
  by_cases hs : c.status = .pending
  · rw [if_neg (not_not_intro hs)]
    exact iff_of_true ⟨_, _, rfl⟩ hs
  · rw [if_pos hs]
    refine iff_of_false ?_ hs
    rintro ⟨a, d, h⟩
    cases h

theorem Call.release_iff (c : Campaign) (now : Timestamp) :
    (∃ a d, (⟨.release, now⟩ : Call).edit c = .ok a d) ↔
      c.status = .sending ∧ c.sentCount + c.failedCount = 0 := by
  rw [Call.edit_eq]
  simp only [outcome, release]
  by_cases hs : c.status = .sending
  · rw [if_neg (not_not_intro hs)]
    by_cases ho : c.outcomeCount = 0
    · rw [if_neg (not_not_intro ho)]
      exact iff_of_true ⟨_, _, rfl⟩ ⟨hs, ho⟩
    · rw [if_pos ho]
      exact iff_of_false (by rintro ⟨a, d, h⟩; cases h) fun h => ho h.2
  · rw [if_pos hs]
    exact iff_of_false (by rintro ⟨a, d, h⟩; cases h) fun h => hs h.1

/-! ## What calls in a row keep -/

/-- What later states of a campaign keep of earlier ones: everything but the counters, which
    do not decrease, the state and the time of the last change. -/
structure Keeps (c d : Campaign) : Prop where
  id : d.id = c.id
  name : d.name = c.name
  message : d.message = c.message
  rules : d.rules = c.rules
  audienceSize : d.audienceSize = c.audienceSize
  createdAt : d.createdAt = c.createdAt
  sentCount : c.sentCount ≤ d.sentCount
  failedCount : c.failedCount ≤ d.failedCount

theorem Keeps.refl (c : Campaign) : Keeps c c :=
  ⟨rfl, rfl, rfl, rfl, rfl, rfl, Int.le_refl _, Int.le_refl _⟩

theorem Keeps.trans {c d e : Campaign} (h : Keeps c d) (h' : Keeps d e) : Keeps c e :=
  ⟨h'.id.trans h.id, h'.name.trans h.name, h'.message.trans h.message, h'.rules.trans h.rules,
    h'.audienceSize.trans h.audienceSize, h'.createdAt.trans h.createdAt,
    Int.le_trans h.sentCount h'.sentCount, Int.le_trans h.failedCount h'.failedCount⟩

/-- Neither the state of a campaign nor the time of its last change is kept. -/
theorem Keeps.of_status {c d : Campaign} (h : Keeps c d) (status : CampaignStatus)
    (now : Timestamp) : Keeps c { d with status := status, updatedAt := now } :=
  ⟨h.id, h.name, h.message, h.rules, h.audienceSize, h.createdAt, h.sentCount, h.failedCount⟩

theorem keeps_count (c : Campaign) (outcome : DeliveryStatus) (now : Timestamp) :
    Keeps c (c.count outcome now) := by
  have hup (n : Int) : n ≤ n + 1 := by omega
  cases outcome with
  | sent => exact ⟨rfl, rfl, rfl, rfl, rfl, rfl, hup _, Int.le_refl _⟩
  | pending => exact ⟨rfl, rfl, rfl, rfl, rfl, rfl, Int.le_refl _, hup _⟩
  | failed => exact ⟨rfl, rfl, rfl, rfl, rfl, rfl, Int.le_refl _, hup _⟩

theorem Call.keeps (call : Call) (c : Campaign) : Keeps c (call.edit.left c) := by
  have heffect := call.effect c
  rw [Edit.left]
  generalize call.edit c = r at heffect ⊢
  cases heffect with
  | failed f => exact .refl c
  | idle a ha => exact .refl c
  | started hs => exact (Keeps.refl c).of_status _ _
  | released hs hnone => exact (Keeps.refl c).of_status _ _
  | counted outcome hs hroom => exact keeps_count c outcome _
  | filled outcome hs hlast => exact (keeps_count c outcome _).of_status _ _
  | closed hs hfull => exact (Keeps.refl c).of_status _ _

theorem Call.keeps_of_outcome {call : Call} {c d : Campaign} {a : Answer}
    (h : call.outcome c = .ok (d, a)) : Keeps c d := by
  have hkeeps := call.keeps c
  rwa [Edit.left, Call.edit_eq, h] at hkeeps

/-- A completed campaign is left as it is. -/
theorem Call.left_of_completed {c : Campaign} (h : c.status = .completed) (call : Call) :
    call.edit.left c = c := by
  have heffect := call.effect c
  rw [Edit.left]
  generalize call.edit c = r at heffect ⊢
  cases heffect with
  | failed f => rfl
  | idle a ha => rfl
  | started hs => cases h.symm.trans hs
  | released hs hnone => cases h.symm.trans hs
  | counted outcome hs hroom => cases h.symm.trans hs
  | filled outcome hs hlast => cases h.symm.trans hs
  | closed hs hfull => cases h.symm.trans hs

/-- Whether an answer reports that the campaign was completed. -/
def Answer.completes : Except Fault Answer → Bool
  | .ok (.update u) => u.completed
  | .ok (.completed happened) => happened
  | _ => false

/-- The calls that report it are those that complete a campaign. -/
theorem Call.completes_iff (call : Call) (c : Campaign) :
    Answer.completes (call.edit.answer c) = true ↔
      c.status ≠ .completed ∧ (call.edit.left c).status = .completed := by
  have heffect := call.effect c
  rw [Edit.left, Edit.answer]
  generalize call.edit c = r at heffect ⊢
  cases heffect with
  | failed f => exact iff_of_false Bool.false_ne_true fun h => h.1 h.2
  | idle a ha =>
      refine iff_of_false ?_ fun h => h.1 h.2
      rcases ha with rfl | rfl <;> exact Bool.false_ne_true
  | started hs => exact iff_of_false Bool.false_ne_true fun h => nomatch h.2
  | released hs hnone => exact iff_of_false Bool.false_ne_true fun h => nomatch h.2
  | counted outcome hs hroom =>
      refine iff_of_false Bool.false_ne_true fun h => ?_
      cases h.2.symm.trans ((status_count call.now).trans hs)
  | filled outcome hs hlast => exact iff_of_true rfl ⟨by rw [hs]; exact nofun, rfl⟩
  | closed hs hfull => exact iff_of_true rfl ⟨by rw [hs]; exact nofun, rfl⟩

/-- How a call deals with a campaign. -/
structure Call.Lawful (call : Call) (c : Campaign) : Prop where
  /-- In place it does what it gives when computed beforehand. -/
  inPlace : call.edit c = Edit.written c (call.outcome c)
  failed : ∀ f d, call.edit c = .error f d → d = c
  uncounted : ∀ (u : CounterUpdate) d, call.edit c = .ok (.update u) d → u.counted = false → d = c
  unmoved : ∀ d, call.edit c = .ok (.completed false) d → d = c
  start : call.operation = .start → ((∃ a d, call.edit c = .ok a d) ↔ c.status = .pending)
  release : call.operation = .release → ((∃ a d, call.edit c = .ok a d) ↔
    c.status = .sending ∧ c.sentCount + c.failedCount = 0)

/-- How calls in a row deal with a campaign. -/
structure Lifecycle (c : Campaign) (calls : List Call) : Prop where
  keeps : ∀ earlier, earlier <+: calls →
    Keeps (Edit.afterAll Call.edit c earlier) (Edit.afterAll Call.edit c calls)
  /-- A completed campaign stays as it is for ever. -/
  final : ∀ earlier, earlier <+: calls →
    (Edit.afterAll Call.edit c earlier).status = .completed →
      Edit.afterAll Call.edit c calls = Edit.afterAll Call.edit c earlier
  once : (Edit.answers Call.edit c calls).countP Answer.completes ≤ 1
  completed : (Edit.answers Call.edit c calls).countP Answer.completes = 1 ↔
    c.status ≠ .completed ∧ (Edit.afterAll Call.edit c calls).status = .completed

theorem Call.lawful (call : Call) (c : Campaign) : call.Lawful c where
  inPlace := call.edit_eq c
  failed f d := Call.eq_of_idle.1 f
  uncounted u d := Call.eq_of_idle.2.1 u
  unmoved d := Call.eq_of_idle.2.2
  start := by
    rcases call with ⟨operation, now⟩
    rintro rfl
    exact Call.start_iff c now
  release := by
    rcases call with ⟨operation, now⟩
    rintro rfl
    exact Call.release_iff c now

theorem lifecycle (c : Campaign) (calls : List Call) : Lifecycle c calls := by
  have hcount := Edit.countP_answers (s := c)
    (fun call c h => Call.left_of_completed h call) Call.completes_iff calls
  refine ⟨?_, ?_, hcount.1, hcount.2⟩
  · rintro earlier ⟨later, rfl⟩
    rw [Edit.afterAll_append]
    exact Edit.afterAll_rel Keeps.refl Keeps.trans Call.keeps later
  · rintro earlier ⟨later, rfl⟩ hcompleted
    rw [Edit.afterAll_append]
    exact Edit.afterAll_eq (Call.left_of_completed hcompleted) later

/-- A campaign for one recipient, to whom a message is sent. What is reported later is not
    counted, and the campaign is not put back. -/
example :
    let c : Campaign := { (default : Campaign) with audienceSize := 1 }
    let calls : List Call := [⟨.start, default⟩, ⟨.record .sent, default⟩,
      ⟨.record .failed, default⟩, ⟨.release, default⟩]
    (Edit.afterAll Call.edit c calls).status = .completed ∧
      (Edit.afterAll Call.edit c calls).outcomeCount = 1 ∧
      (Edit.answers Call.edit c calls).countP Answer.completes = 1 := by
  decide

end Campaign

end Outreach
