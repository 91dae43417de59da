import Outreach.World

/-!
# How Actions End

An action ends in one of two ways: with a result, or with a failure that
keeps what was changed before. `Action.Ends` says what holds in either case.
It is stated once for each building block, as an equivalence from left to
right, so that a call that is put together from these blocks can be taken
apart again by rewriting, one block after the other, without opening the
state monad.

## Main definitions

* `Action.Ends`: What holds however an action ends.
* `Action.left`: The world that an action leaves behind.

## Theorems

* `Action.Ends.mono`: Weaker conditions at the end.
* `Action.exists_of_ends`, `Action.failed_of_ends`: An action that can only succeed, and
  one that can only fail.
* `Action.ends_bind`, `Action.Ends.bind`: One action after another.
* `Action.ends_capture`: A failure that is caught.
* `Action.capture_rethrow`: Catching a failure and failing with it again
  changes nothing.
-/

namespace Outreach

namespace Action

variable {σ α β : Type}

/-- What holds however an action ends: one condition for its result, one for
    its failure. -/
def Ends (x : Action σ α) (w : World σ) (ok : α → World σ → Prop)
    (bad : Fault → World σ → Prop) : Prop :=
  match x w with
  | .ok a v => ok a v
  | .error f v => bad f v

variable {w : World σ} {ok ok' : α → World σ → Prop} {bad bad' : Fault → World σ → Prop}

theorem Ends.mono {x : Action σ α} (h : Ends x w ok bad) (hok : ∀ a v, ok a v → ok' a v)
    (hbad : ∀ f v, bad f v → bad' f v) : Ends x w ok' bad' := by
  unfold Ends at h ⊢
  cases hx : x w with
  | ok a v =>
      rw [hx] at h
      exact hok a v h
  | error f v =>
      rw [hx] at h
      exact hbad f v h

/-- Two conditions at the end. -/
theorem Ends.and {x : Action σ α} (h : Ends x w ok bad) (h' : Ends x w ok' bad') :
    Ends x w (fun a v => ok a v ∧ ok' a v) fun f v => bad f v ∧ bad' f v := by
  unfold Ends at h h' ⊢
  cases hx : x w with
  | ok a v =>
      rw [hx] at h h'
      exact ⟨h, h'⟩
  | error f v =>
      rw [hx] at h h'
      exact ⟨h, h'⟩

/-- What holds whatever an action does holds at its end. -/
theorem ends_of_forall {x : Action σ α} (hok : ∀ a v, ok a v) (hbad : ∀ f v, bad f v) :
    Ends x w ok bad := by
  unfold Ends
  cases x w with
  | ok a v => exact hok a v
  | error f v => exact hbad f v

/-- What ends well only does so. -/
theorem exists_of_ends {x : Action σ α} (h : Ends x w ok fun _ _ => False) :
    ∃ a v, x w = .ok a v ∧ ok a v := by
  unfold Ends at h
  cases hx : x w with
  | ok a v =>
      rw [hx] at h
      exact ⟨a, v, rfl, h⟩
  | error f v =>
      rw [hx] at h
      exact h.elim

/-- What only fails does so. -/
theorem failed_of_ends {x : Action σ α} (h : Ends x w (fun _ _ => False) bad) :
    ∃ f v, x w = .error f v ∧ bad f v := by
  unfold Ends at h
  cases hx : x w with
  | ok a v =>
      rw [hx] at h
      exact h.elim
  | error f v =>
      rw [hx] at h
      exact ⟨f, v, rfl, h⟩

/-- A run of an action shows how it ends. -/
instance (x : Action σ α) (w : World σ) [∀ a v, Decidable (ok a v)] [∀ f v, Decidable (bad f v)] :
    Decidable (Ends x w ok bad) :=
  match h : x w with
  | .ok a v => decidable_of_iff (ok a v) (by unfold Ends; rw [h])
  | .error f v => decidable_of_iff (bad f v) (by unfold Ends; rw [h])

/-- The world that an action leaves behind, whether it succeeds or fails. -/
def left (x : Action σ α) (w : World σ) : World σ :=
  match x w with
  | .ok _ v => v
  | .error _ v => v

/-- What holds however an action ends holds of the world that it leaves behind. -/
theorem holds_left {x : Action σ α} {P : World σ → Prop}
    (h : Ends x w (fun _ v => P v) fun _ v => P v) : P (left x w) := by
  unfold Ends at h
  unfold left
  cases hx : x w <;> rw [hx] at h <;> exact h

@[simp] theorem ends_pure (a : α) : Ends (pure a) w ok bad ↔ ok a w := Iff.rfl

@[simp] theorem ends_throw (f : Fault) : Ends (throw f : Action σ α) w ok bad ↔ bad f w := Iff.rfl

@[simp] theorem ends_get {ok : World σ → World σ → Prop} :
    Ends (get : Action σ (World σ)) w ok bad ↔ ok w w := Iff.rfl

@[simp] theorem ends_set (v : World σ) {ok : PUnit → World σ → Prop} :
    Ends (set v : Action σ PUnit) w ok bad ↔ ok ⟨⟩ v := Iff.rfl

@[simp] theorem ends_bind (x : Action σ α) (f : α → Action σ β) {ok : β → World σ → Prop} :
    Ends (x >>= f) w ok bad ↔ Ends x w (fun a v => Ends (f a) v ok bad) bad := by
  unfold Ends
  change (match EStateM.bind x f w with | .ok a v => ok a v | .error f v => bad f v) ↔ _
  unfold EStateM.bind
  cases x w <;> rfl

/-- One action after another, by what is known after the first one. -/
theorem Ends.bind {x : Action σ α} {f : α → Action σ β} {mid : α → World σ → Prop}
    {ok : β → World σ → Prop} (h : Ends x w mid bad)
    (hf : ∀ a v, mid a v → Ends (f a) v ok bad) : Ends (x >>= f) w ok bad := by
  rw [ends_bind]
  exact h.mono hf fun _ _ hbad => hbad

/-- An action whose result is passed over. -/
theorem Ends.discard {x : Action σ α} {P : World σ → Prop}
    (h : Ends x w (fun _ v => P v) fun _ v => P v) :
    Ends (do let _ ← x) w (fun _ v => P v) fun _ v => P v :=
  h.bind fun _ _ hv => hv

@[simp] theorem ends_capture (x : Action σ α) {ok : Except Fault α → World σ → Prop} :
    Ends (capture x) w ok bad ↔
      Ends x w (fun a v => ok (.ok a) v) (fun f v => ok (.error f) v) := by
  unfold Ends capture
  cases x w <;> rfl

/-- An outcome that was computed elsewhere leaves the world as it is. -/
@[simp] theorem ends_ofExcept (e : Except Fault α) :
    Ends (ofExcept e : Action σ α) w ok bad ↔
      (∀ a, e = .ok a → ok a w) ∧ ∀ f, e = .error f → bad f w := by
  cases e with
  | ok a =>
      refine ⟨fun h => ⟨fun b hb => ?_, fun f hf => ?_⟩, fun h => h.1 a rfl⟩
      · cases hb
        exact h
      · cases hf
  | error f =>
      refine ⟨fun h => ⟨fun b hb => ?_, fun g hg => ?_⟩, fun h => h.2 f rfl⟩
      · cases hb
      · cases hg
        exact h

@[simp] theorem ends_note (level : Log.Level) (channel : Log.Channel) (message : Text)
    {ok : Unit → World σ → Prop} :
    Ends (note level channel message) w ok bad ↔
      ok () { w with log := ⟨level, channel, message, w.fields⟩ :: w.log } := Iff.rfl

@[simp] theorem ends_measure (f : Metrics → Metrics) {ok : Unit → World σ → Prop} :
    Ends (measure f) w ok bad ↔ ok () { w with metrics := f w.metrics } := Iff.rfl

@[simp] theorem ends_freshId {ok : Uuid → World σ → Prop} :
    Ends freshId w ok bad ↔ ok (w.supply w.drawn) { w with drawn := w.drawn + 1 } := Iff.rfl

/-- The time is read without changing anything. -/
@[simp] theorem ends_now {ok : Timestamp → World σ → Prop} :
    Ends now w ok bad ↔
      (∀ t, inUtc w.clock = .ok t → ok t w) ∧ ∀ f, inUtc w.clock = .error f → bad f w := by
  simp only [now, ends_bind, ends_get, ends_ofExcept]

@[simp] theorem ends_within (fields : Log.Fields) (x : Action σ α) :
    Ends (within fields x) w ok bad ↔
      Ends x { w with fields := w.fields.merge fields }
        (fun a v => ok a { v with fields := w.fields })
        fun f v => bad f { v with fields := w.fields } := by
  unfold Ends within
  cases x { w with fields := w.fields.merge fields } <;> rfl

theorem ends_ite {c : Prop} [Decidable c] (x y : Action σ α) :
    Ends (if c then x else y) w ok bad ↔
      (c → Ends x w ok bad) ∧ (¬c → Ends y w ok bad) := by
  by_cases h : c
  · simp only [h, if_true, true_implies, not_true_eq_false, false_implies, and_true]
  · simp only [h, if_false, false_implies, not_false_eq_true, true_implies, true_and]

/-- One action after another is caught at the first failure. -/
theorem capture_bind (x : Action σ α) (f : α → Action σ β) :
    (x >>= f).capture = x.capture >>= fun
      | .ok a => (f a).capture
      | .error e => pure (.error e) := by
  funext w
  change capture (EStateM.bind x f) w = EStateM.bind (capture x) _ w
  simp only [EStateM.bind, capture]
  cases x w <;> rfl

/-- Catching a failure only to fail with it again changes nothing. -/
theorem capture_rethrow (x : Action σ α) :
    (do
      match ← x.capture with
      | .ok a => return a
      | .error f => throw f) = x := by
  funext w
  change EStateM.bind (capture x) _ w = x w
  unfold EStateM.bind capture
  cases x w <;> rfl

end Action

end Outreach
