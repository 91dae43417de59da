import Mathlib.Data.List.Basic
import Outreach.Vendor.Basic

/-!
# The Ledger of a Vendor

What happens to the sends of the simulated vendor is written down, event by event. Sends
take their steps in any order, a receipt may stay with the sink for a while, and a send may
be called off at any time. Even so the events of one send are always the beginning of the
same short life, and as soon as every send that has ended is removed, each of them is in
flight or came to one of three ends.

## Main definitions

* `Traffic.Event`: What happens to a send.
* `Traffic`, `Traffic.Step`, `Traffic.Run`: A vendor, the receipts
  that are with the sink, and the steps of sends in any order.
* `Traffic.Life`: How far a send has come, with what happened to it so far.
* `Traffic.Ledger`: What the events of a run say about where it leads to.

## Theorems

* `Traffic.Ledger.step`, `Traffic.Ledger.run`: Every step keeps the ledger, and so does a run.
* `Traffic.Life.reported_once`: At most one receipt, with the outcome that was drawn.
* `Traffic.Ledger.balance`: Sends are in flight, delivered, lost or called off.
* `Traffic.Ledger.quiet_of_ended`: After its end a send reports nothing.
-/

namespace Outreach

theorem getElem?_modify_self {α : Type} {xs : List α} {k : Nat} {a : α} (f : α → α)
    (h : xs[k]? = some a) : (xs.modify k f)[k]? = some (f a) := by
  rw [List.getElem?_modify_eq, h]
  rfl

theorem getElem?_of_modify {α : Type} {xs : List α} {j k : Nat} {f : α → α} {b : α}
    (h : (xs.modify j f)[k]? = some b) :
    ∃ a, xs[k]? = some a ∧ (b = a ∨ j = k ∧ b = f a) := by
  by_cases hjk : j = k
  · subst hjk
    rw [List.getElem?_modify_eq, Option.map_eq_map, Option.map_eq_some_iff] at h
    rcases h with ⟨a, ha, rfl⟩
    exact ⟨a, ha, .inr ⟨rfl, rfl⟩⟩
  · rw [List.getElem?_modify_ne f _ hjk] at h
    exact ⟨b, h, .inl rfl⟩

theorem exists_modify {α : Type} {xs : List α} {k : Nat} {a : α} (j : Nat) (f : α → α)
    (h : xs[k]? = some a) : ∃ b, (xs.modify j f)[k]? = some b ∧ (b = a ∨ j = k ∧ b = f a) := by
  by_cases hjk : j = k
  · subst hjk
    exact ⟨f a, getElem?_modify_self f h, .inr ⟨rfl, rfl⟩⟩
  · exact ⟨a, (List.getElem?_modify_ne f _ hjk).trans h, .inl rfl⟩

theorem map_modify {α β : Type} {f : α → α} {g : α → β} (hg : ∀ a, g (f a) = g a) (k : Nat)
    (xs : List α) : (xs.modify k f).map g = xs.map g := by
  refine List.ext_getElem? fun j => ?_
  rw [List.getElem?_map, List.getElem?_map, List.getElem?_modify]
  cases xs[j]? with
  | none => rfl
  | some a =>
      by_cases hkj : k = j
      · simp only [hkj, if_true]
        exact congrArg some (hg a)
      · simp only [hkj, if_false]
        rfl

/-- A count before and after one member is changed. -/
theorem countP_modify {α : Type} {p : α → Bool} {f : α → α} {xs : List α} {k : Nat} {a : α}
    (h : xs[k]? = some a) :
    (xs.modify k f).countP p + (p a).toNat = xs.countP p + (p (f a)).toNat := by
  induction xs generalizing k with
  | nil => cases h
  | cons b rest ih =>
      cases k with
      | zero =>
          cases h
          rw [List.modify_zero_cons, List.countP_cons, List.countP_cons]
          cases p (f a) <;> cases p a <;> simp
      | succ k =>
          have hrest := ih h
          rw [List.modify_succ_cons, List.countP_cons, List.countP_cons]
          omega

/-- A vendor, and the sends whose receipt is with the sink. -/
structure Traffic where
  vendor : Vendor
  atSink : List Nat

namespace Traffic

/-- What happens to the sends of a vendor. A send has a number, in order of handing over. -/
inductive Event
  /-- A message is handed over for a record. -/
  | accepted (record : Uuid)
  /-- A send draws the number that its success depends on. -/
  | drew (k : Nat) (r : Double)
  /-- The sink is called with the receipt of a send. -/
  | reported (k : Nat) (receipt : Receipt)
  | calledOff (k : Nat)
  | ended (k : Nat) (how : Ending)
  deriving DecidableEq

namespace Event

/-- The send whose life an event belongs to. -/
def number? : Event → Option Nat
  | drew k _ | reported k _ | ended k _ => some k
  | accepted _ | calledOff _ => none

/-- The record of a message that is handed over. -/
def accepted? : Event → Option Uuid
  | accepted record => some record
  | _ => none

/-- The receipt that the sink is called with. -/
def receipt? : Event → Option Receipt
  | reported _ receipt => some receipt
  | _ => none

/-- The receipt of one send. -/
def receiptOf? (k : Nat) : Event → Option Receipt
  | reported j receipt => if j = k then some receipt else none
  | _ => none

/-- The success draw of one send. -/
def drawOf? (k : Nat) : Event → Option Double
  | drew j r => if j = k then some r else none
  | _ => none

/-- Whether a send comes to an end of a kind. -/
def isEnding (how : Ending) : Event → Bool
  | ended _ h => h == how
  | _ => false

theorem number?_of_receiptOf? {k : Nat} {e : Event} {receipt : Receipt}
    (h : e.receiptOf? k = some receipt) : e.number? = some k := by
  cases e with
  | reported j _ =>
      by_cases hj : j = k
      · exact congrArg some hj
      · rw [receiptOf?, if_neg hj] at h
        cases h
  | _ => cases h

theorem number?_of_drawOf? {k : Nat} {e : Event} {r : Double} (h : e.drawOf? k = some r) :
    e.number? = some k := by
  cases e with
  | drew j _ =>
      by_cases hj : j = k
      · exact congrArg some hj
      · rw [drawOf?, if_neg hj] at h
        cases h
  | _ => cases h

end Event

/-- The events of one send. -/
def past (k : Nat) (es : List Event) : List Event :=
  es.filter fun e => e.number? = some k

theorem past_append (k : Nat) (es more : List Event) :
    past k (es ++ more) = past k es ++ past k more :=
  List.filter_append ..

theorem past_singleton {k : Nat} {e : Event} (h : e.number? = some k) : past k [e] = [e] := by
  rw [past, List.filter_singleton, decide_eq_true h]
  rfl

/-- What only the events of one send give is given by its past. -/
theorem filterMap_past {α : Type} {f : Event → Option α} {k : Nat}
    (hf : ∀ {e a}, f e = some a → e.number? = some k) (es : List Event) :
    (past k es).filterMap f = es.filterMap f := by
  rw [past, List.filterMap_filter]
  refine List.filterMap_congr fun e _ => ?_
  cases h : f e with
  | none => exact ite_self _
  | some a => rw [decide_eq_true (hf h), if_pos rfl]

/-- The steps of sends, one at a time and in any order. -/
inductive Step : Traffic → List Event → Traffic → Prop
  | accept (t : Traffic) (h : Handover) :
      Step t [.accepted h.record.id] ⟨t.vendor.accept h, t.atSink⟩
  | start {t : Traffic} {k : Nat} {s : Send} (hs : t.vendor.sends[k]? = some s)
      (hstage : s.stage = .waiting) : Step t [] ⟨(t.vendor.start k).2, t.atSink⟩
  | decide {t : Traffic} {k : Nat} {s : Send} (hs : t.vendor.sends[k]? = some s)
      (hstage : s.stage = .dispatching) :
      Step t [.drew k (t.vendor.random t.vendor.drawn)] ⟨(t.vendor.decide k).2, t.atSink⟩
  | report {t : Traffic} {k : Nat} {s : Send} {o : DeliveryStatus}
      (hs : t.vendor.sends[k]? = some s) (hstage : s.stage = .responding o)
      (hk : k ∉ t.atSink) :
      Step t [.reported k ⟨s.recordId, o⟩] ⟨t.vendor.report ⟨s.recordId, o⟩, k :: t.atSink⟩
  /-- The sink has taken the receipt, or has failed. -/
  | settle {t : Traffic} {k : Nat} {s : Send} (hs : t.vendor.sends[k]? = some s)
      (hk : k ∈ t.atSink) {how : Ending} (hhow : how ≠ .calledOff) :
      Step t [.ended k how] ⟨t.vendor.finish k how, t.atSink.filter (· ≠ k)⟩
  /-- A send that was called off goes no further, also if its receipt is with the sink. -/
  | giveUp {t : Traffic} {k : Nat} {s : Send} (hs : t.vendor.sends[k]? = some s)
      (hopen : s.isEnded = false) (hcalled : s.isCalledOff = true) :
      Step t [.ended k .calledOff] ⟨t.vendor.finish k .calledOff, t.atSink.filter (· ≠ k)⟩
  | callOff {t : Traffic} {k : Nat} {s : Send} (hs : t.vendor.sends[k]? = some s) :
      Step t [.calledOff k] ⟨t.vendor.callOff k, t.atSink⟩
  | remove {t : Traffic} {k : Nat} {s : Send} (hs : t.vendor.sends[k]? = some s)
      (hended : s.isEnded = true) : Step t [] ⟨t.vendor.remove k, t.atSink⟩

/-- Any number of steps. -/
inductive Run : Traffic → List Event → Traffic → Prop
  | refl (t : Traffic) : Run t [] t
  | step {t u v : Traffic} {es more : List Event} (h : Run t es u) (hstep : Step u more v) :
      Run t (es ++ more) v

theorem Run.single {t u : Traffic} {es : List Event} (h : Step t es u) : Run t es u :=
  List.nil_append es ▸ (Run.refl t).step h

theorem Run.trans {t u v : Traffic} {es more : List Event} (h : Run t es u) (h' : Run u more v) :
    Run t (es ++ more) v := by
  induction h' with
  | refl => exact (List.append_nil es).symm ▸ h
  | step _ hstep ih => exact List.append_assoc .. ▸ ih.step hstep

/-- Messages that are handed over, one after the other. -/
theorem run_foldl_accept (hs : List Handover) : ∀ t : Traffic,
    Run t (hs.map fun h => .accepted h.record.id) ⟨hs.foldl Vendor.accept t.vendor, t.atSink⟩ := by
  induction hs with
  | nil => exact Run.refl
  | cons h rest ih =>
      exact fun t => (Run.single (.accept t h)).trans (ih ⟨t.vendor.accept h, t.atSink⟩)

/-- What was called off stays so, and what was removed. -/
theorem Step.keeps {t u : Traffic} {es : List Event} {k : Nat} {s : Send} (h : Step t es u)
    (hs : t.vendor.sends[k]? = some s) : ∃ s', u.vendor.sends[k]? = some s' ∧
      (s.isCalledOff = true → s'.isCalledOff = true) ∧
      (s.isRemoved = true → s'.isRemoved = true) := by
  have hmodify : ∀ (j : Nat) (f : Send → Send), (∀ s, (s.isCalledOff = true →
      (f s).isCalledOff = true) ∧ (s.isRemoved = true → (f s).isRemoved = true)) →
      ∃ s', (t.vendor.sends.modify j f)[k]? = some s' ∧
        (s.isCalledOff = true → s'.isCalledOff = true) ∧
        (s.isRemoved = true → s'.isRemoved = true) := fun j f hf => by
    rcases exists_modify j f hs with ⟨s', hs', rfl | ⟨-, rfl⟩⟩
    · exact ⟨s', hs', id, id⟩
    · exact ⟨f s, hs', hf s⟩
  cases h with
  | accept message =>
      exact ⟨s, (List.getElem?_append_left (List.getElem?_eq_some_iff.1 hs).1).trans hs, id, id⟩
  | report _ _ _ => exact ⟨s, hs, id, id⟩
  | callOff _ => exact hmodify _ _ fun _ => ⟨fun _ => rfl, id⟩
  | remove _ _ => exact hmodify _ _ fun _ => ⟨id, fun _ => rfl⟩
  | _ => exact hmodify _ _ fun _ => ⟨id, id⟩

theorem Run.keeps {t u : Traffic} {es : List Event} {k : Nat} {s : Send} (h : Run t es u)
    (hs : t.vendor.sends[k]? = some s) : ∃ s', u.vendor.sends[k]? = some s' ∧
      (s.isCalledOff = true → s'.isCalledOff = true) ∧
      (s.isRemoved = true → s'.isRemoved = true) := by
  induction h with
  | refl => exact ⟨s, hs, id, id⟩
  | step _ hstep ih =>
      rcases ih with ⟨s', hs', hcalled, hremoved⟩
      rcases hstep.keeps hs' with ⟨s'', hs'', hcalled', hremoved'⟩
      exact ⟨s'', hs'', hcalled' ∘ hcalled, hremoved' ∘ hremoved⟩

section CallingOff

variable {t u : Traffic} {es : List Event} {k : Nat} {s : Send}

/-- A send that was called off before, or is called off on the way. -/
def CalledOff (t : Traffic) (es : List Event) (k : Nat) : Prop :=
  (∃ s, t.vendor.sends[k]? = some s ∧ s.isCalledOff = true) ∨ .calledOff k ∈ es

/-- A step that changes one send and does not call it off calls none off. -/
theorem calledOff_of_modify {j : Nat} {f : Send → Send}
    (hu : u.vendor.sends = t.vendor.sends.modify j f)
    (hf : ∀ s, (f s).isCalledOff = s.isCalledOff) (hs : u.vendor.sends[k]? = some s)
    (hcalled : s.isCalledOff = true) : CalledOff t es k := by
  rw [hu] at hs
  rcases getElem?_of_modify hs with ⟨s₀, hs₀, rfl | ⟨-, rfl⟩⟩
  · exact .inl ⟨s, hs₀, hcalled⟩
  · exact .inl ⟨s₀, hs₀, (hf s₀).symm.trans hcalled⟩

theorem Step.calledOff (h : Step t es u) (hs : u.vendor.sends[k]? = some s)
    (hcalled : s.isCalledOff = true) : CalledOff t es k := by
  cases h with
  | accept message =>
      rcases Nat.lt_or_ge k t.vendor.sends.length with hk | hk
      · rw [Vendor.accept, List.getElem?_append_left hk] at hs
        exact .inl ⟨s, hs, hcalled⟩
      · rw [Vendor.accept, List.getElem?_append_right hk] at hs
        cases List.eq_of_mem_singleton (List.mem_of_getElem? hs)
        cases hcalled
  | start _ _ => exact calledOff_of_modify rfl (by intro _; rfl) hs hcalled
  | decide _ _ => exact calledOff_of_modify rfl (by intro _; rfl) hs hcalled
  | report _ _ _ => exact .inl ⟨s, hs, hcalled⟩
  | settle _ _ _ => exact calledOff_of_modify rfl (by intro _; rfl) hs hcalled
  | giveUp _ _ _ => exact calledOff_of_modify rfl (by intro _; rfl) hs hcalled
  | callOff _ =>
      rcases getElem?_of_modify hs with ⟨s₀, hs₀, rfl | ⟨rfl, -⟩⟩
      · exact .inl ⟨s, hs₀, hcalled⟩
      · exact .inr List.mem_cons_self
  | remove _ _ => exact calledOff_of_modify rfl (by intro _; rfl) hs hcalled

theorem Run.calledOff (h : Run t es u) (hs : u.vendor.sends[k]? = some s)
    (hcalled : s.isCalledOff = true) : CalledOff t es k := by
  induction h generalizing s with
  | refl => exact .inl ⟨s, hs, hcalled⟩
  | step _ hstep ih =>
      rcases hstep.calledOff hs hcalled with ⟨s', hs', hcalled'⟩ | hmem
      · exact (ih hs' hcalled').imp_right (List.mem_append_left _)
      · exact .inr (List.mem_append_right _ hmem)

/-- No send ends called off that nobody has called off. -/
theorem Run.calledOff_of_ended (h : Run t es u) (hend : .ended k .calledOff ∈ es) :
    CalledOff t es k := by
  induction h with
  | refl => cases hend
  | step hrun hstep ih =>
      rcases List.mem_append.1 hend with hend | hend
      · exact (ih hend).imp_right (List.mem_append_left _)
      · cases hstep with
        | giveUp hs _ hcalled =>
            cases List.mem_singleton.1 hend
            exact (hrun.calledOff hs hcalled).imp_right (List.mem_append_left _)
        | settle _ _ hhow =>
            cases List.mem_singleton.1 hend
            exact absurd rfl hhow
        | _ => simp at hend

end CallingOff

variable {profile : Vendor.Profile} {random : Nat → Double} {k : Nat} {id : Uuid}

/-- How far a send has come, whether its receipt is with the sink, and what has happened to
    it by then. -/
inductive Life (profile : Vendor.Profile) (random : Nat → Double) (k : Nat) (id : Uuid) :
    SendStage → Bool → List Event → Prop
  | waiting : Life profile random k id .waiting false []
  | dispatching : Life profile random k id .dispatching false []
  | decided (n : Nat) :
      Life profile random k id (.responding (Vendor.outcomeOf profile (random n))) false
        [.drew k (random n)]
  | reported (n : Nat) :
      Life profile random k id (.responding (Vendor.outcomeOf profile (random n))) true
        [.drew k (random n), .reported k ⟨id, Vendor.outcomeOf profile (random n)⟩]
  | settled (n : Nat) {how : Ending} (hhow : how ≠ .calledOff) :
      Life profile random k id (.ended how) false
        [.drew k (random n), .reported k ⟨id, Vendor.outcomeOf profile (random n)⟩, .ended k how]
  | calledOff {stage : SendStage} {atSink : Bool} {es : List Event}
      (h : Life profile random k id stage atSink es) (hopen : ∀ how, stage ≠ .ended how) :
      Life profile random k id (.ended .calledOff) false (es ++ [.ended k .calledOff])

theorem Life.of_waiting {atSink : Bool} {es : List Event}
    (h : Life profile random k id .waiting atSink es) : atSink = false ∧ es = [] := by
  cases h
  exact ⟨rfl, rfl⟩

theorem Life.of_dispatching {atSink : Bool} {es : List Event}
    (h : Life profile random k id .dispatching atSink es) : atSink = false ∧ es = [] := by
  cases h
  exact ⟨rfl, rfl⟩

theorem Life.of_responding {o : DeliveryStatus} {es : List Event}
    (h : Life profile random k id (.responding o) false es) :
    ∃ n, o = Vendor.outcomeOf profile (random n) ∧ es = [.drew k (random n)] := by
  cases h with
  | decided n => exact ⟨n, rfl, rfl⟩

theorem Life.of_atSink {stage : SendStage} {es : List Event}
    (h : Life profile random k id stage true es) :
    ∃ n, stage = .responding (Vendor.outcomeOf profile (random n)) ∧
      es = [.drew k (random n), .reported k ⟨id, Vendor.outcomeOf profile (random n)⟩] := by
  cases h with
  | reported n => exact ⟨n, rfl, rfl⟩

/-- A send reports at most once, for its own record and with the outcome that its success
    draw means. -/
theorem Life.reported_once {stage : SendStage} {atSink : Bool} {es : List Event}
    (h : Life profile random k id stage atSink es) :
    es.filterMap (Event.receiptOf? k) = [] ∨
      ∃ n, es.filterMap (Event.receiptOf? k) = [⟨id, Vendor.outcomeOf profile (random n)⟩] ∧
        es.filterMap (Event.drawOf? k) = [random n] := by
  induction h with
  | waiting => exact .inl rfl
  | dispatching => exact .inl rfl
  | decided n => exact .inl rfl
  | reported n => exact .inr ⟨n, by simp [List.filterMap_cons, Event.receiptOf?, Event.drawOf?]⟩
  | settled n _ => exact .inr ⟨n, by simp [List.filterMap_cons, Event.receiptOf?, Event.drawOf?]⟩
  | calledOff _ _ ih =>
      rw [List.filterMap_append, List.filterMap_append]
      simpa only [List.filterMap_cons, Event.receiptOf?, Event.drawOf?, List.filterMap_nil,
        List.append_nil] using ih

/-- A send that is on its way has not ended before. -/
theorem Life.not_ended {stage : SendStage} {atSink : Bool} {es : List Event}
    (h : Life profile random k id stage atSink es) (hopen : ∀ how, stage ≠ .ended how)
    (how : Ending) : .ended k how ∉ es := by
  cases h with
  | settled _ _ => exact absurd rfl (hopen _)
  | calledOff _ _ => exact absurd rfl (hopen _)
  | _ => simp

/-- The end of a send is the last that happens to it. -/
theorem Life.ends {how : Ending} {atSink : Bool} {es : List Event}
    (h : Life profile random k id (.ended how) atSink es) :
    ∃ before, es = before ++ [.ended k how] ∧ ∀ how', .ended k how' ∉ before := by
  cases h with
  | settled n hhow => exact ⟨[.drew k (random n), .reported k _], rfl, fun how' => by simp⟩
  | calledOff h hopen => exact ⟨_, rfl, h.not_ended hopen⟩

/-- What the events of a run say about where it leads to. -/
structure Ledger (profile : Vendor.Profile) (random : Nat → Double) (es : List Event)
    (t : Traffic) : Prop where
  profile_eq : t.vendor.profile = profile
  random_eq : t.vendor.random = random
  lives : ∀ k s, t.vendor.sends[k]? = some s →
    Life profile random k s.recordId s.stage (decide (k ∈ t.atSink)) (past k es)
  strangers : ∀ k, t.vendor.sends.length ≤ k → past k es = [] ∧ k ∉ t.atSink
  accepted : t.vendor.sends.map Send.recordId = es.filterMap Event.accepted?
  reports : t.vendor.reports = es.filterMap Event.receipt?
  endings : ∀ how,
    es.countP (Event.isEnding how) = t.vendor.sends.countP fun s => s.stage = .ended how
  removed : ∀ s ∈ t.vendor.sends, s.isRemoved = true → s.isEnded = true

namespace Ledger

variable {es more : List Event} {t u : Traffic} {s : Send}

theorem idle (profile : Vendor.Profile) (random : Nat → Double) :
    Ledger profile random [] ⟨Vendor.idle profile random, []⟩ where
  profile_eq := rfl
  random_eq := rfl
  lives := fun _ _ h => nomatch h
  strangers := fun _ _ => ⟨rfl, List.not_mem_nil⟩
  accepted := rfl
  reports := rfl
  endings := fun _ => rfl
  removed := fun _ h => nomatch h

/-- A step of one send leaves the others alone. What it does to its own send is all that
    is to be looked at. -/
theorem changed (h : Ledger profile random es t) (hs : t.vendor.sends[k]? = some s)
    {f : Send → Send} (hf : ∀ s, (f s).recordId = s.recordId)
    (hprofile : u.vendor.profile = t.vendor.profile)
    (hrandom : u.vendor.random = t.vendor.random)
    (hsends : u.vendor.sends = t.vendor.sends.modify k f)
    (hreports : u.vendor.reports = t.vendor.reports ++ more.filterMap Event.receipt?)
    (hatSink : ∀ j, j ≠ k → (j ∈ u.atSink ↔ j ∈ t.atSink))
    (hmore : ∀ e ∈ more, e.number? = some k ∨ e.number? = none)
    (haccepted : more.filterMap Event.accepted? = [])
    (hlife : Life profile random k s.recordId s.stage (decide (k ∈ t.atSink)) (past k es) →
      Life profile random k s.recordId (f s).stage (decide (k ∈ u.atSink))
        (past k es ++ past k more))
    (hending : ∀ how, more.countP (Event.isEnding how) + (decide (s.stage = .ended how)).toNat =
      (decide ((f s).stage = .ended how)).toNat)
    (hremoved : (f s).isRemoved = true → (f s).isEnded = true) :
    Ledger profile random (es ++ more) u where
  profile_eq := hprofile.trans h.profile_eq
  random_eq := hrandom.trans h.random_eq
  lives := by
    intro j s' hj
    rw [hsends] at hj
    rw [past_append]
    by_cases hjk : j = k
    · subst hjk
      rw [getElem?_modify_self f hs, Option.some.injEq] at hj
      rw [← hj, hf]
      exact hlife (h.lives j s hs)
    · rw [List.getElem?_modify_ne f _ (Ne.symm hjk)] at hj
      have hnone : past j more = [] := by
        refine List.filter_eq_nil_iff.2 fun e he => ?_
        rcases hmore e he with hnumber | hnumber <;>
          simp [hnumber, Ne.symm hjk]
      rw [hnone, List.append_nil, decide_eq_decide.2 (hatSink j hjk)]
      exact h.lives j s' hj
  strangers := by
    intro j hj
    rw [hsends, List.length_modify] at hj
    have hlt : k < t.vendor.sends.length := (List.getElem?_eq_some_iff.1 hs).1
    have hjk : j ≠ k := by omega
    rcases h.strangers j hj with ⟨hpast, hnot⟩
    refine ⟨?_, fun hmem => hnot ((hatSink j hjk).1 hmem)⟩
    rw [past_append, hpast, List.nil_append]
    refine List.filter_eq_nil_iff.2 fun e he => ?_
    rcases hmore e he with hnumber | hnumber <;> simp [hnumber, Ne.symm hjk]
  accepted := by
    rw [hsends, List.filterMap_append, haccepted, List.append_nil, ← h.accepted,
      map_modify hf]
  reports := by rw [hreports, h.reports, List.filterMap_append]
  endings := by
    intro how
    have hcount := countP_modify (p := fun s => decide (s.stage = .ended how)) (f := f) hs
    have hmine := hending how
    rw [List.countP_append, hsends, h.endings how]
    omega
  removed := by
    intro s' hs' hr
    rw [hsends] at hs'
    rcases List.getElem?_of_mem hs' with ⟨j, hj⟩
    by_cases hjk : j = k
    · subst hjk
      rw [getElem?_modify_self f hs, Option.some.injEq] at hj
      exact hj ▸ hremoved (hj ▸ hr)
    · rw [List.getElem?_modify_ne f _ (Ne.symm hjk)] at hj
      exact h.removed s' (List.mem_of_getElem? hj) hr

theorem countP_ended (k : Nat) (how how' : Ending) :
    [Event.ended k how].countP (Event.isEnding how') = (decide (how = how')).toNat := by
  rw [List.countP_singleton, Event.isEnding, beq_eq_decide]
  cases decide (how = how') <;> rfl

theorem notMem_filter_ne (k : Nat) (ks : List Nat) : k ∉ ks.filter (· ≠ k) :=
  fun h => of_decide_eq_true (List.mem_filter.1 h).2 rfl

/-- A send that is removed has ended. -/
theorem not_removed (h : Ledger profile random es t) (hs : t.vendor.sends[k]? = some s)
    (hopen : s.isEnded = false) : s.isRemoved = false := by
  cases hr : s.isRemoved with
  | false => rfl
  | true => exact (h.removed s (List.mem_of_getElem? hs) hr).symm.trans hopen

/-- A message that is handed over begins a life of its own. -/
theorem accept (h : Ledger profile random es t) (message : Handover) :
    Ledger profile random (es ++ [.accepted message.record.id])
      ⟨t.vendor.accept message, t.atSink⟩ where
  profile_eq := h.profile_eq
  random_eq := h.random_eq
  lives := by
    intro k s hs
    rw [past_append]
    rcases Nat.lt_or_ge k t.vendor.sends.length with hk | hk
    · rw [Vendor.accept, List.getElem?_append_left hk] at hs
      exact (List.append_nil (past k es)).symm ▸ h.lives k s hs
    · rcases h.strangers k hk with ⟨hpast, hnot⟩
      rw [Vendor.accept, List.getElem?_append_right hk] at hs
      rw [hpast, decide_eq_false hnot]
      -- Nothing has happened to the new send yet.
      cases List.eq_of_mem_singleton (List.mem_of_getElem? hs)
      exact .waiting
  strangers := by
    intro k hk
    rw [Vendor.accept, List.length_append] at hk
    rcases h.strangers k (by omega) with ⟨hpast, hnot⟩
    exact ⟨by rw [past_append, hpast]; rfl, hnot⟩
  accepted := by
    rw [Vendor.accept, List.map_append, h.accepted, List.filterMap_append]
    rfl
  reports := by
    rw [List.filterMap_append, ← h.reports]
    exact (List.append_nil _).symm
  endings := by
    intro how
    rw [Vendor.accept, List.countP_append, List.countP_append, h.endings how]
    rfl
  removed := by
    intro s hs hr
    rcases List.mem_append.1 hs with hs | hs
    · exact h.removed s hs hr
    · rw [List.mem_singleton.1 hs] at hr
      cases hr

/-- Every step keeps the ledger. -/
theorem step (h : Ledger profile random es t) (hstep : Step t more u) :
    Ledger profile random (es ++ more) u := by
  cases hstep with
  | accept message => exact h.accept message
  | start hs hstage =>
      rename_i k s
      have hopen : s.isEnded = false := by rw [Send.isEnded, hstage]
      refine h.changed hs (f := fun s => { s with stage := .dispatching }) (fun _ => rfl) rfl rfl
        rfl (List.append_nil _).symm (fun _ _ => Iff.rfl) (fun _ he => nomatch he) rfl ?_ ?_ ?_
      · intro hlife
        rw [hstage] at hlife
        rcases hlife.of_waiting with ⟨hat, hpast⟩
        rw [hat, hpast]
        exact .dispatching
      · intro how
        simp only [hstage, reduceCtorEq]
        rfl
      · exact fun hr => nomatch (h.not_removed hs hopen).symm.trans hr
  | decide hs hstage =>
      rename_i k s
      have hopen : s.isEnded = false := by rw [Send.isEnded, hstage]
      refine h.changed hs (f := fun s => { s with stage := .responding _ }) (fun _ => rfl) rfl rfl
        rfl (List.append_nil _).symm (fun _ _ => Iff.rfl) ?_ rfl ?_ ?_ ?_
      · exact fun e he => .inl (List.mem_singleton.1 he ▸ rfl)
      · intro hlife
        rw [hstage] at hlife
        rcases hlife.of_dispatching with ⟨hat, hpast⟩
        rw [hat, hpast, past_singleton rfl, ← h.profile_eq, ← h.random_eq]
        exact .decided t.vendor.drawn
      · intro how
        simp only [hstage, reduceCtorEq]
        rfl
      · exact fun hr => nomatch (h.not_removed hs hopen).symm.trans hr
  | report hs hstage hk =>
      rename_i k s o
      have hopen : s.isEnded = false := by rw [Send.isEnded, hstage]
      refine h.changed hs (f := id) (fun _ => rfl) rfl rfl
        (List.modify_id _ _).symm rfl ?_ ?_ rfl ?_ ?_ ?_
      · exact fun j hj => List.mem_cons.trans (or_iff_right hj)
      · exact fun e he => .inl (List.mem_singleton.1 he ▸ rfl)
      · intro hlife
        rw [hstage, decide_eq_false hk] at hlife
        rcases hlife.of_responding with ⟨n, rfl, hpast⟩
        rw [hpast, past_singleton rfl, decide_eq_true List.mem_cons_self, id, hstage]
        exact .reported n
      · intro how
        simp only [hstage, reduceCtorEq, id]
        rfl
      · exact fun hr => nomatch (h.not_removed hs hopen).symm.trans hr
  | settle hs hk hhow =>
      rename_i k s how
      have hlife := h.lives k s hs
      rw [decide_eq_true hk] at hlife
      rcases hlife.of_atSink with ⟨n, hstage, hpast⟩
      refine h.changed hs (f := fun s => { s with stage := .ended how }) (fun _ => rfl) rfl rfl
        rfl (List.append_nil _).symm ?_ ?_ rfl ?_ ?_ ?_
      · exact fun j hj => by rw [List.mem_filter, decide_eq_true hj, and_iff_left rfl]
      · exact fun e he => .inl (List.mem_singleton.1 he ▸ rfl)
      · intro _
        rw [hpast, past_singleton rfl, decide_eq_false (notMem_filter_ne k t.atSink)]
        exact .settled n hhow
      · intro how'
        rw [hstage, countP_ended]
        simp only [reduceCtorEq, decide_false, SendStage.ended.injEq]
        rfl
      · exact fun _ => rfl
  | giveUp hs hopen hcalled =>
      rename_i k s
      have hstage : ∀ how, s.stage ≠ .ended how := fun how hstage => by
        rw [Send.isEnded, hstage] at hopen
        cases hopen
      refine h.changed hs (f := fun s => { s with stage := .ended .calledOff }) (fun _ => rfl) rfl
        rfl rfl (List.append_nil _).symm ?_ ?_ rfl ?_ ?_ ?_
      · exact fun j hj => by rw [List.mem_filter, decide_eq_true hj, and_iff_left rfl]
      · exact fun e he => .inl (List.mem_singleton.1 he ▸ rfl)
      · intro hlife
        rw [past_singleton rfl, decide_eq_false (notMem_filter_ne k t.atSink)]
        exact hlife.calledOff hstage
      · intro how'
        rw [countP_ended, decide_eq_false (hstage how')]
        simp only [SendStage.ended.injEq]
        rfl
      · exact fun _ => rfl
  | callOff hs =>
      rename_i k s
      refine h.changed hs (f := fun s => { s with isCalledOff := true }) (fun _ => rfl) rfl
        rfl rfl (List.append_nil _).symm (fun _ _ => Iff.rfl) ?_ rfl ?_ ?_ ?_
      · exact fun e he => .inr (List.mem_singleton.1 he ▸ rfl)
      · intro hlife
        exact (List.append_nil (past k es)).symm ▸ hlife
      · exact fun how => Nat.zero_add _
      · exact h.removed s (List.mem_of_getElem? hs)
  | remove hs hended =>
      refine h.changed hs (f := fun s => { s with isRemoved := true }) (fun _ => rfl) rfl
        rfl rfl (List.append_nil _).symm (fun _ _ => Iff.rfl) (fun _ he => nomatch he) rfl ?_ ?_ ?_
      · intro hlife
        exact (List.append_nil (past _ es)).symm ▸ hlife
      · exact fun how => Nat.zero_add _
      · exact fun _ => hended

/-- So does a run. -/
theorem run (h : Ledger profile random es t) (hrun : Run t more u) :
    Ledger profile random (es ++ more) u := by
  induction hrun with
  | refl => exact (List.append_nil es).symm ▸ h
  | step _ hstep ih => exact List.append_assoc .. ▸ ih.step hstep

/-- After its end nothing happens to a send. -/
theorem quiet_of_ended (h : Ledger profile random es t)
    (hlater : Ledger profile random (es ++ more) u) (hs : t.vendor.sends[k]? = some s)
    (hended : s.isEnded = true) : past k more = [] := by
  have hlife := h.lives k s hs
  cases hstage : s.stage with
  | ended how =>
      rw [hstage] at hlife
      rcases hlife.ends with ⟨before, hpast, -⟩
      have hmem : .ended k how ∈ past k (es ++ more) := by
        rw [past_append, hpast]
        simp
      cases hs' : u.vendor.sends[k]? with
      | none =>
          have hnil := (hlater.strangers k (List.getElem?_eq_none_iff.1 hs')).1
          rw [hnil] at hmem
          cases hmem
      | some s' =>
          have hlife' := hlater.lives k s' hs'
          by_cases hopen : ∀ how, s'.stage ≠ .ended how
          · exact absurd hmem (hlife'.not_ended hopen how)
          · simp only [not_forall, ne_eq, not_not] at hopen
            rcases hopen with ⟨how', hstage'⟩
            rw [hstage'] at hlife'
            rcases hlife'.ends with ⟨before', hpast', hnot⟩
            rw [past_append, hpast] at hpast'
            -- The last event of the longer past cannot be later than the end.
            rcases List.eq_nil_or_concat (past k more) with hnil | ⟨more', e, hmore⟩
            · exact hnil
            · rw [hmore, List.concat_eq_append, ← List.append_assoc] at hpast'
              have hbefore := (List.append_inj' hpast' rfl).1
              refine absurd ?_ (hnot how)
              rw [← hbefore]
              simp
  | _ =>
      rw [Send.isEnded, hstage] at hended
      cases hended

/-- Once every send that has ended is removed, a send that was accepted is in flight, or it
    was delivered, lost or called off. -/
theorem balance (h : Ledger profile random es t)
    (hquiet : ∀ s ∈ t.vendor.sends, s.isEnded = true → s.isRemoved = true) :
    (es.filterMap Event.accepted?).length =
      es.countP (Event.isEnding .delivered) + es.countP (Event.isEnding .undelivered) +
        es.countP (Event.isEnding .calledOff) + t.vendor.inFlight := by
  rw [← h.accepted, List.length_map, h.endings, h.endings, h.endings, Vendor.inFlight]
  have hremoved : ∀ s ∈ t.vendor.sends, s.isRemoved = s.isEnded := fun s hs =>
    Bool.eq_iff_iff.2 ⟨h.removed s hs, hquiet s hs⟩
  generalize t.vendor.sends = sends at hremoved ⊢
  induction sends with
  | nil => rfl
  | cons s rest ih =>
      have hrest := ih fun s' hs' => hremoved s' (List.mem_cons_of_mem s hs')
      have hs := hremoved s List.mem_cons_self
      simp only [List.length_cons, List.countP_cons, hs]
      rw [Send.isEnded]
      rcases s.stage with _ | _ | _ | (_ | _ | _) <;> simp <;> omega

end Ledger

end Traffic

end Outreach
