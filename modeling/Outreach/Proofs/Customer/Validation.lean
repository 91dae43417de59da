import Outreach.Proofs.Text.Normal
import Outreach.Proofs.Time.Calendar

/-!
# Customers and Orders That Pass Their Checks

What passes its checks is the draft in normal form, and a draft passes exactly if
it satisfies each of them.

## Main definitions

* `Customer.Passes`, `Order.Passes`: A draft and what becomes of it.
* `Customer.Fails`, `Order.Fails`: A draft and how it fails.
* `Customer.Regular`: A customer in normal form.

## Theorems

* `Customer.validated_eq_ok_iff`, `Order.validated_eq_ok_iff`: That is what the
  checks are.
* `Customer.fails_of_validated`, `Order.fails_of_validated`: A draft that does not
  pass fails at one of them.
* `Customer.exists_passes`: A draft that satisfies every condition passes.
* `Customer.Passes.regular`: What passes is in normal form.
-/

namespace Outreach

/-- What is left of a computation behind a check that was passed. -/
theorem passed_of_unless {ε α : Type} {p : Prop} [Decidable p] {fault : ε} {x : Except ε α} {a : α}
    (h : (if p then .error fault else x) = .ok a) : ¬p ∧ x = .ok a := by
  by_cases hp : p
  · rw [if_pos hp] at h
    cases h
  · rw [if_neg hp] at h
    exact ⟨hp, h⟩

/-- A computation behind a check fails at the check or after it. -/
theorem failed_of_unless {ε α : Type} {p : Prop} [Decidable p] {fault f : ε} {x : Except ε α}
    (h : (if p then .error fault else x) = .error f) : p ∧ f = fault ∨ ¬p ∧ x = .error f := by
  by_cases hp : p
  · rw [if_pos hp] at h
    cases h
    exact Or.inl ⟨hp, rfl⟩
  · rw [if_neg hp] at h
    exact Or.inr ⟨hp, h⟩

/-! ## Universal time -/

theorem Timestamp.ahead_of_toUtc? {t u : Timestamp} (h : t.toUtc? = some u) : u.ahead = some 0 := by
  rw [toUtc?] at h
  cases ha : t.ahead with
  | none =>
      rw [ha, Option.some.injEq] at h
      rw [← h]
  | some o =>
      rw [ha] at h
      exact (wall_ofWall? h).2

theorem toUtc?_of_inUtc {t u : Timestamp} (h : inUtc t = .ok u) : t.toUtc? = some u := by
  rw [inUtc] at h
  cases ht : t.toUtc? with
  | none =>
      rw [ht] at h
      cases h
  | some v =>
      rw [ht] at h
      cases h
      rfl

theorem inUtc_eq_ok_iff {t u : Timestamp} : inUtc t = .ok u ↔ t.toUtc? = some u := by
  refine ⟨toUtc?_of_inUtc, fun h => ?_⟩
  rw [inUtc, h]

theorem fault_of_inUtc {t : Timestamp} {f : Fault} (h : inUtc t = .error f) : f = .dateRange := by
  rw [inUtc] at h
  split at h <;> cases h
  rfl

theorem isAware_of_inUtc {t u : Timestamp} (h : inUtc t = .ok u) : u.isAware = true := by
  rw [Timestamp.isAware, Timestamp.ahead_of_toUtc? (toUtc?_of_inUtc h)]
  rfl

/-- A time that was brought to universal time once is left alone. -/
theorem inUtc_inUtc {t u : Timestamp} (haware : t.isAware = true) (h : inUtc t = .ok u) :
    inUtc u = .ok u := by
  rw [inUtc_eq_ok_iff] at h ⊢
  have hu := Timestamp.ahead_of_toUtc? h
  cases ha : t.ahead with
  | none =>
      rw [Timestamp.isAware, ha] at haware
      cases haware
  | some o =>
      simp only [Timestamp.toUtc?, ha] at h
      simp only [Timestamp.toUtc?, hu, (Timestamp.wall_ofWall? h).1, Int.sub_zero]
      exact h

namespace Customer

/-- A draft of a customer and the customer that it passes as. -/
structure Passes (draft c : Customer) : Prop where
  named : draft.name.isBlankText = false
  mailed : draft.email.points.contains (.char '@') = true
  spend : draft.totalSpends.lt Double.zero = false
  visits : ¬draft.visits < 0
  lastVisit : inUtc draft.lastVisit = .ok c.lastVisit
  createdAt : inUtc draft.createdAt = .ok c.createdAt
  same : c = { draft with
    name := draft.name.strip
    email := normalEmail draft.email
    lastVisit := c.lastVisit
    createdAt := c.createdAt }

variable {draft c : Customer}

theorem validated_eq_ok_iff : draft.validated = .ok c ↔ Passes draft c := by
  refine ⟨fun h => ?_, fun h => ?_⟩
  · rcases passed_of_unless h with ⟨hnamed, h⟩
    rcases passed_of_unless h with ⟨hmailed, h⟩
    rcases passed_of_unless h with ⟨hspend, h⟩
    rcases passed_of_unless h with ⟨hvisits, h⟩
    rw [Bool.not_eq_true] at hnamed hspend
    rw [Bool.not_eq_true', Bool.not_eq_false] at hmailed
    cases hvisit : inUtc draft.lastVisit with
    | error fault =>
        rw [hvisit] at h
        cases h
    | ok visit =>
        cases hcreated : inUtc draft.createdAt with
        | error fault =>
            simp only [hvisit, hcreated, bind, Except.bind] at h
            cases h
        | ok created =>
            simp only [hvisit, hcreated, bind, Except.bind] at h
            cases h
            exact ⟨hnamed, hmailed, hspend, hvisits, hvisit, hcreated, rfl⟩
  · rw [validated]
    simp only [h.named, h.mailed, h.spend, h.visits, h.lastVisit, h.createdAt, Bool.false_eq_true,
      Bool.not_true, if_false, bind, Except.bind, pure, Except.pure]
    rw [← h.same]

/-- A draft of a customer and how it fails. Its times are looked at last. -/
inductive Fails (draft : Customer) : Fault → Prop
  | unnamed (blank : draft.name.isBlankText = true) : Fails draft .emptyCustomerName
  | unmailed (email : draft.email.points.contains (.char '@') = false) :
      Fails draft (.invalidEmail draft.email.quoted)
  | spend (negative : draft.totalSpends.lt Double.zero = true) : Fails draft .negativeSpends
  | visits (negative : draft.visits < 0) : Fails draft .negativeVisits
  | time {f : Fault} (named : draft.name.isBlankText = false)
      (mailed : draft.email.points.contains (.char '@') = true)
      (spend : draft.totalSpends.lt Double.zero = false) (visits : ¬draft.visits < 0)
      (time : inUtc draft.lastVisit = .error f ∨ inUtc draft.createdAt = .error f) : Fails draft f

/-- A draft that does not pass fails at the first check that it does not satisfy. -/
theorem fails_of_validated {f : Fault} (h : draft.validated = .error f) : draft.Fails f := by
  rcases failed_of_unless h with ⟨hblank, rfl⟩ | ⟨hnamed, h⟩
  · exact .unnamed hblank
  rcases failed_of_unless h with ⟨hemail, rfl⟩ | ⟨hmailed, h⟩
  · exact .unmailed (Bool.not_eq_true' _ ▸ hemail)
  rcases failed_of_unless h with ⟨hnegative, rfl⟩ | ⟨hspend, h⟩
  · exact .spend hnegative
  rcases failed_of_unless h with ⟨hnegative, rfl⟩ | ⟨hvisits, h⟩
  · exact .visits hnegative
  rw [Bool.not_eq_true] at hnamed hspend
  rw [Bool.not_eq_true', Bool.not_eq_false] at hmailed
  refine .time hnamed hmailed hspend hvisits ?_
  cases hvisit : inUtc draft.lastVisit with
  | error fault =>
      rw [hvisit] at h
      exact Or.inl (congrArg Except.error (Except.error.inj h))
  | ok visit =>
      cases hcreated : inUtc draft.createdAt with
      | error fault =>
          simp only [hvisit, hcreated, bind, Except.bind] at h
          exact Or.inr (congrArg Except.error (Except.error.inj h))
      | ok created =>
          simp only [hvisit, hcreated, bind, Except.bind] at h
          cases h

/-- A draft that satisfies every condition passes. -/
theorem exists_passes (hnamed : draft.name.isBlankText = false)
    (hmailed : draft.email.points.contains (.char '@') = true)
    (hspend : draft.totalSpends.lt Double.zero = false) (hvisits : ¬draft.visits < 0)
    {visit created : Timestamp} (hvisit : inUtc draft.lastVisit = .ok visit)
    (hcreated : inUtc draft.createdAt = .ok created) : ∃ c, Passes draft c := by
  refine ⟨{ draft with
    name := draft.name.strip
    email := normalEmail draft.email
    lastVisit := visit
    createdAt := created }, ?_⟩
  exact ⟨hnamed, hmailed, hspend, hvisits, hvisit, hcreated, rfl⟩

section

variable (h : draft.Passes c)

include h

theorem Passes.id_eq : c.id = draft.id := by rw [h.same]

theorem Passes.name_eq : c.name = draft.name.strip := by rw [h.same]

theorem Passes.email_eq : c.email = normalEmail draft.email := by rw [h.same]

theorem Passes.phone_eq : c.phone = draft.phone := by rw [h.same]

theorem Passes.spend_eq : c.totalSpends = draft.totalSpends := by rw [h.same]

theorem Passes.visits_eq : c.visits = draft.visits := by rw [h.same]

end

/-- A customer in normal form: a name that is more than blanks and has none around
    it, an email that is one and is kept as it is, and no negative number of
    visits. -/
structure Regular (c : Customer) : Prop where
  named : c.name.isBlankText = false
  stripped : c.name.strip = c.name
  mailed : c.email.points.contains (.char '@') = true
  normal : normalEmail c.email = c.email
  visits : 0 ≤ c.visits

/-- What passes is in normal form. -/
theorem Passes.regular (h : draft.Passes c) : c.Regular := by
  refine ⟨?_, ?_, ?_, ?_, ?_⟩
  · rw [h.name_eq]
    exact Text.isBlankText_strip h.named
  · rw [h.name_eq]
    exact Text.strip_strip _
  · rw [h.email_eq]
    exact contains_normalEmail h.mailed
  · rw [h.email_eq]
    exact normalEmail_normalEmail _
  · rw [h.visits_eq]
    exact Int.not_lt.1 h.visits

end Customer

namespace Order

/-- A draft of an order and the order that it passes as. -/
structure Passes (draft o : Order) : Prop where
  positive : draft.amount.le Double.zero = false
  date : inUtc draft.date = .ok o.date
  same : o = { draft with customerEmail := normalEmail draft.customerEmail, date := o.date }

variable {draft o : Order}

theorem validated_eq_ok_iff : draft.validated = .ok o ↔ Passes draft o := by
  refine ⟨fun h => ?_, fun h => ?_⟩
  · rcases passed_of_unless h with ⟨hpositive, h⟩
    rw [Bool.not_eq_true] at hpositive
    cases hdate : inUtc draft.date with
    | error fault =>
        rw [hdate] at h
        cases h
    | ok date =>
        rw [hdate] at h
        cases h
        exact ⟨hpositive, hdate, rfl⟩
  · rw [validated]
    simp only [h.positive, h.date, Bool.false_eq_true, if_false, bind, Except.bind, pure,
      Except.pure]
    rw [← h.same]

/-- A draft of an order and how it fails. -/
inductive Fails (draft : Order) : Fault → Prop
  | unpaid (amount : draft.amount.le Double.zero = true) : Fails draft .amountNotPositive
  | time {f : Fault} (positive : draft.amount.le Double.zero = false)
      (date : inUtc draft.date = .error f) : Fails draft f

/-- A draft that does not pass fails at the amount or else at the date. -/
theorem fails_of_validated {f : Fault} (h : draft.validated = .error f) : draft.Fails f := by
  rcases failed_of_unless h with ⟨hamount, rfl⟩ | ⟨hpositive, h⟩
  · exact .unpaid hamount
  rw [Bool.not_eq_true] at hpositive
  refine .time hpositive ?_
  cases hdate : inUtc draft.date with
  | error fault =>
      rw [hdate] at h
      exact congrArg Except.error (Except.error.inj h)
  | ok date =>
      rw [hdate] at h
      cases h

theorem Passes.id_eq (h : draft.Passes o) : o.id = draft.id := by rw [h.same]

theorem Passes.email_eq (h : draft.Passes o) :
    o.customerEmail = normalEmail draft.customerEmail := by
  rw [h.same]

theorem Passes.amount_eq (h : draft.Passes o) : o.amount = draft.amount := by rw [h.same]

end Order

end Outreach
