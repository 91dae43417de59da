import Outreach.Proofs.Rule.Portable
import Outreach.Proofs.Rule.Recency
import Outreach.Proofs.Store.Memory
import Outreach.Proofs.Store.Mirror.Intake

/-!
# Operators Split the Customers

The operators of a rule are those of an order, so each customer satisfies just one of the
rules that ask for more, for as much and for less, and the two other operators join two of
them. A rule on the last visit reads its operator backwards in time, which turns the order
round and keeps the split. It asks how long ago a visit was, in seconds between instants.

The audiences of the three rules therefore have no customer in common, and every stored
customer is in one of them. Only a spend that is no number stands outside the order.

## Main definitions

* `Rule.asking`: A rule with another operator.
* `Rule.Operator.Splits`: Answers to the operators as an order gives them.

## Theorems

* `Rule.splits_holds`: Rules with one field and value split the customers.
* `Rule.perm_of_splits`: A list is split into three parts.
* `Rule.audiences_apart`: No customer is in two of them.
* `Rule.operators_partition`: Predicates, matches and audiences of the five rules.
-/

namespace Outreach

/-- A double other than NaN has a value. -/
theorem Double.exists_value {x : Double} (h : x.isNaN = false) : ∃ a, x.value? = some a := by
  cases x with
  | nan => cases h
  | number negative rank rank_le =>
      rw [value?]
      by_cases htop : rank = infinityRank
      · exact ⟨_, if_pos htop⟩
      · exact ⟨_, if_neg htop⟩

namespace Rule

/-- A rule with another operator. -/
def asking (r : Rule) (o : Operator) : Rule :=
  { r with operator := o }

/-! ## Answers to the operators -/

/-- Answers to the operators as an order gives them: to be greater, equal and less exclude
    each other, one of them is the case, and the two other operators join two of them. -/
structure Operator.Splits (answer : Operator → Bool) : Prop where
  one : [answer .greater, answer .equal, answer .less].count true = 1
  atLeast : answer .greaterEqual = (answer .greater || answer .equal)
  atMost : answer .lessEqual = (answer .less || answer .equal)

namespace Operator

/-- Two values of an order are related in one way. -/
theorem splits_relates {α : Type} [LinearOrder α] (a b : α) : Splits fun o => o.relates a b := by
  rcases lt_trichotomy a b with hlt | heq | hgt
  · constructor <;> simp [relates, hlt, hlt.le, hlt.ne, hlt.not_gt, hlt.not_ge]
  · constructor <;> simp [relates, heq]
  · constructor <;> simp [relates, hgt, hgt.le, hgt.ne', hgt.not_gt, hgt.not_ge]

/-- Of the three answers that exclude each other, the one that is not less or greater is
    equal. -/
theorem Splits.equal_eq {answer : Operator → Bool} (h : Splits answer) :
    (!answer .less && !answer .greater) = answer .equal := by
  have hone := h.one
  revert hone
  cases answer .greater <;> cases answer .equal <;> cases answer .less <;> decide

theorem Splits.not_greater_of_less {answer : Operator → Bool} (h : Splits answer)
    (hless : answer .less = true) : answer .greater = false := by
  have hone := h.one
  revert hone
  rw [hless]
  cases answer .greater <;> cases answer .equal <;> decide

/-- Turning the order round exchanges two of the answers. -/
theorem Splits.backwards {answer : Operator → Bool} (h : Splits answer) :
    Splits fun o => answer o.backwards where
  one := by
    rw [← h.one]
    exact List.Perm.count_eq (List.reverse_perm _).symm _
  atLeast := h.atMost
  atMost := h.atLeast

end Operator

variable {now : Timestamp} {r : Rule} {c : Customer}

/-- A value can be read whatever the operator. -/
theorem Parses.asking (h : r.Parses now) (o : Operator) : (r.asking o).Parses now := by
  rcases r with ⟨field, operator, value, logic⟩
  cases field <;> exact h

/-- Rules with one field and value split the customers whose spend is a number. -/
theorem splits_holds (h : r.Parses now) (hspend : c.totalSpends.isNaN = false) :
    Operator.Splits fun o => (r.asking o).holds now c := by
  rcases r with ⟨field, operator, value, logic⟩
  cases field with
  | totalSpends =>
      rcases h with ⟨x, hx⟩
      change number value = .ok x at hx
      rcases Double.exists_value (isNaN_of_number hx) with ⟨b, hb⟩
      rcases Double.exists_value hspend with ⟨a, ha⟩
      simp only [holds, asking, hx, ha, hb]
      exact Operator.splits_relates a b
  | visits =>
      rcases h with ⟨x, hx⟩
      change number value = .ok x at hx
      rcases Double.exists_value (isNaN_of_number hx) with ⟨b, hb⟩
      simp only [holds, asking, hx, hb]
      exact Operator.splits_relates (WithBotTop.coe (c.visits : ℚ)) b
  | lastVisit =>
      rcases h with ⟨t, ht⟩
      change reference value now = .ok t at ht
      rcases instant_reference ht with ⟨days, hdays, -⟩
      simp only [holds, asking, hdays]
      exact (Operator.splits_relates c.lastVisit.instant (now.instant - days * dayMicros)).backwards

/-- A rule that asks for more days holds just of the customers whose last visit is longer
    ago, in seconds between instants. -/
theorem holds_greater_iff (hfield : r.field = .lastVisit) {days : Nat}
    (hdays : dayCount r.value = .ok days) : (r.asking .greater).holds now c = true ↔
      days * 86400 * (secondMicros : Int) < now.instant - c.lastVisit.instant := by
  rcases r with ⟨field, operator, value, logic⟩
  cases hfield
  have hmicros : (dayMicros : Int) = 86400 * secondMicros := by decide
  simp only [holds, asking, hdays, Operator.backwards, Operator.relates, decide_eq_true_eq,
    hmicros, ← mul_assoc]
  omega

/-! ## Parts of a list -/

/-- A list whose items answer the operators is split into three parts. -/
theorem perm_of_splits {α : Type} {answer : α → Operator → Bool} {xs : List α}
    (h : ∀ x ∈ xs, Operator.Splits (answer x)) :
    (xs.filter (answer · .greater) ++ xs.filter (answer · .equal) ++
      xs.filter (answer · .less)).Perm xs := by
  have hless : ∀ x ∈ xs, (answer x .less && !answer x .greater) = answer x .less := by
    intro x hx
    cases hlt : answer x .less with
    | false => rfl
    | true => rw [(h x hx).not_greater_of_less hlt, Bool.not_false, Bool.true_and]
  -- What is not greater is split once more.
  have hrest : (xs.filter (answer · .equal) ++ xs.filter (answer · .less)).Perm
      (xs.filter fun x => !answer x .greater) := by
    have hsplit := List.filter_append_perm (answer · .less) (xs.filter fun x => !answer x .greater)
    rw [List.filter_filter, List.filter_filter, List.filter_congr fun x hx => (h x hx).equal_eq,
      List.filter_congr hless] at hsplit
    exact List.perm_append_comm.trans hsplit
  rw [List.append_assoc]
  exact (hrest.append_left _).trans (List.filter_append_perm _ _)

/-- The audience of the rules with one field and value, by operator: the stored customers of
    whom the rule holds, in the order of a store's answers. -/
def audience (now : Timestamp) (r : Rule) (cs : List Customer) (o : Operator) : List Customer :=
  inTimeOrder (·.createdAt.instant) Customer.id (cs.filter ((r.asking o).holds now))

theorem mem_audience {cs : List Customer} {o : Operator} :
    c ∈ audience now r cs o ↔ c ∈ cs ∧ (r.asking o).holds now c = true := by
  rw [audience, inTimeOrder, List.mem_mergeSort, List.mem_filter]

/-- No customer is in two of the three audiences. -/
theorem audiences_apart {cs : List Customer} (h : r.Parses now)
    (hspends : ∀ c ∈ cs, c.totalSpends.isNaN = false) :
    (∀ c ∈ audience now r cs .greater,
        c ∉ audience now r cs .equal ∧ c ∉ audience now r cs .less) ∧
      ∀ c ∈ audience now r cs .equal, c ∉ audience now r cs .less := by
  simp only [mem_audience]
  refine ⟨fun c hc => ⟨fun hequal => ?_, fun hless => ?_⟩, fun c hc hless => ?_⟩
  · have hsplit := (splits_holds h (hspends c hc.1)).equal_eq
    simp only [hc.2, hequal.2, Bool.not_true, Bool.and_false, Bool.false_eq_true] at hsplit
  · have hsplit := (splits_holds h (hspends c hc.1)).not_greater_of_less hless.2
    simp only [hc.2, Bool.true_eq_false] at hsplit
  · have hsplit := (splits_holds h (hspends c hc.1)).equal_eq
    simp only [hc.2, hless.2, Bool.not_true, Bool.false_and, Bool.false_eq_true] at hsplit

/-- A rule whose value compiles for its field compiles with every operator. The rules that
    differ in their operators split the customers whose spend is a number: just one of
    greater, equal and less matches, at least is greater or equal and at most is less or
    equal. A rule on the last visit asks how long ago it was. In a store, the three audiences
    have no customer in common and are all customers together. A store in a database that
    mirrors it is split in the same way. That the last visit is aware holds of every customer
    from the beginning, by `Customer.isAware_of_validated` and
    `Customer.isAware_recordOrder`. -/
theorem operators_partition (hnow : now.isAware = true) {p₀ : Predicate}
    (h : compile [r] now = .ok p₀) :
    ∃ p : Operator → Predicate, (∀ o, compile [r.asking o] now = .ok (p o)) ∧
      (∀ c : Customer, c.lastVisit.isAware = true → c.totalSpends.isNaN = false →
        ∃ answer : Operator → Bool, (∀ o, (p o).matches c = .ok (answer o)) ∧
          [answer .greater, answer .equal, answer .less].count true = 1 ∧
          answer .greaterEqual = (answer .greater || answer .equal) ∧
          answer .lessEqual = (answer .less || answer .equal) ∧
          (r.field = .lastVisit → ∃ days : Nat, dayCount r.value = .ok days ∧
            (answer .greater = true ↔
              days * 86400 * (secondMicros : Int) < now.instant - c.lastVisit.instant))) ∧
      ∀ m : Memory, m.available = true →
        (∀ c ∈ m.tables.customers, c.lastVisit.isAware = true ∧ c.totalSpends.isNaN = false) →
        ∃ found : Operator → List Customer,
          (∀ o, m.findMatching (p o) = .ok (found o)) ∧
          (∀ c ∈ found .greater, c ∉ found .equal ∧ c ∉ found .less) ∧
          (∀ c ∈ found .equal, c ∉ found .less) ∧
          (found .greater ++ found .equal ++ found .less).Perm m.tables.customers ∧
          ∀ d time, now.ahead = some 0 → Mirror m d →
            ∀ o, d.findMatching (p o) time = .ok ((found o).map Customer.kept) := by
  have hparses : r.Parses now := exists_compile_iff.1 ⟨p₀, h⟩ r List.mem_cons_self
  have hall : ∀ o, ∀ s ∈ [r.asking o], s.Parses now := fun o s hs =>
    List.mem_singleton.1 hs ▸ hparses.asking o
  choose p hp using fun o => exists_compile_iff.2 (hall o)
  have hmatches : ∀ c : Customer, c.lastVisit.isAware = true → ∀ o,
      (p o).matches c = .ok ((r.asking o).holds now c) := by
    intro c hvisit o
    rcases exists_compile hnow hvisit (hall o) with ⟨q, hq, hmatches⟩
    cases (hp o).symm.trans hq
    rw [hmatches, sequential_eq_all, List.all_cons, List.all_nil, Bool.and_true]
  refine ⟨p, hp, fun c hvisit hspend => ?_, fun m havailable hcustomers => ?_⟩
  · have hsplits := splits_holds hparses hspend
    refine ⟨fun o => (r.asking o).holds now c, hmatches c hvisit, hsplits.one, hsplits.atLeast,
      hsplits.atMost, fun hfield => ?_⟩
    have hlast := hparses
    rw [Parses, hfield] at hlast
    rcases hlast with ⟨t, ht⟩
    rcases instant_reference ht with ⟨days, hdays, -⟩
    exact ⟨days, hdays, holds_greater_iff hfield hdays⟩
  · have hfound : ∀ o, m.findMatching (p o) = .ok (audience now r m.tables.customers o) := fun o =>
      Memory.findMatching_of_ok havailable fun c hc => hmatches c (hcustomers c hc).1 o
    have hspends : ∀ c ∈ m.tables.customers, c.totalSpends.isNaN = false := fun c hc =>
      (hcustomers c hc).2
    have hapart := audiences_apart hparses hspends
    refine ⟨audience now r m.tables.customers, hfound, hapart.1, hapart.2, ?_, ?_⟩
    · have hsorted (o : Operator) : (audience now r m.tables.customers o).Perm
          (m.tables.customers.filter ((r.asking o).holds now)) := List.mergeSort_perm _ _
      exact (((hsorted _).append (hsorted _)).append (hsorted _)).trans
        (perm_of_splits fun c hc => splits_holds hparses (hspends c hc))
    · intro d time hutc hmirror o
      rcases hmirror.findMatching (portable_compile hutc (hp o)) time with ⟨cs, hcs, hrows, -⟩
      cases (hfound o).symm.trans hcs
      exact hrows

/-- Three customers who came 30 days ago, a microsecond earlier and a microsecond later, on
    clocks of three zones, as a clock of a fourth one sees them. -/
theorem operators_partition_sample :
    let now : Timestamp := ⟨⟨2024, 6, 1⟩, 3600000000, some 7200000000⟩
    let r : Rule := ⟨.lastVisit, .equal, " +3_0 ", .or⟩
    let visitor (n : Nat) (visit : Timestamp) : Customer :=
      { (default : Customer) with id := Uuid.ofNat n, lastVisit := visit }
    let early := visitor 1 ⟨⟨2024, 5, 2⟩, 16199999999, some 19800000000⟩
    let punctual := visitor 2 ⟨⟨2024, 5, 1⟩, 82800000000, some 0⟩
    let late := visitor 3 ⟨⟨2024, 5, 1⟩, 64800000001, some (-18000000000)⟩
    let m : Memory := ⟨⟨[late, punctual, early], [], [], []⟩, true, none⟩
    (now.isAware = true ∧ (∃ p, compile [r] now = .ok p) ∧ m.available = true ∧
      ∀ c ∈ m.tables.customers, c.lastVisit.isAware = true ∧ c.totalSpends.isNaN = false) ∧
    ∃ p : Operator → Predicate, (∀ o, compile [r.asking o] now = .ok (p o)) ∧
      (p .greater).matches early = .ok true ∧ (p .greater).matches punctual = .ok false ∧
      (p .greater).matches late = .ok false ∧
      ∃ found : Operator → List Customer, (∀ o, m.findMatching (p o) = .ok (found o)) ∧
        (found .greater ++ found .equal ++ found .less).Perm [late, punctual, early] := by
  intro now r visitor early punctual late m
  have hcompiled : ∃ p, compile [r] now = .ok p := exists_compile_iff.2 (by decide +kernel)
  have hcustomers : ∀ c ∈ m.tables.customers,
      c.lastVisit.isAware = true ∧ c.totalSpends.isNaN = false := by decide +kernel
  have hvalue : dayCount r.value = .ok 30 := by cbv
  rcases hcompiled with ⟨p₀, hp₀⟩
  rcases operators_partition (show now.isAware = true from rfl) hp₀ with ⟨p, hp, hsplit, hstore⟩
  -- A visit is asked for by the microsecond.
  have hgreater : ∀ (c : Customer) (truth : Bool), c.lastVisit.isAware = true →
      c.totalSpends.isNaN = false →
      decide (30 * 86400 * (secondMicros : Int) < now.instant - c.lastVisit.instant) = truth →
        (p .greater).matches c = .ok truth := by
    rintro c truth hvisit hspend rfl
    rcases hsplit c hvisit hspend with ⟨answer, hanswer, -, -, -, hlast⟩
    rcases hlast rfl with ⟨days, hdays, hiff⟩
    cases hvalue.symm.trans hdays
    rw [hanswer, Except.ok.injEq, Bool.eq_iff_iff, hiff, decide_eq_true_eq]
    rfl
  rcases hstore m rfl hcustomers with ⟨found, hfound, -, -, hall, -⟩
  refine ⟨⟨rfl, ⟨p₀, hp₀⟩, rfl, hcustomers⟩, p, hp, ?_, ?_, ?_, found, hfound, hall⟩
  · exact hgreater early true rfl (by decide +kernel) (by decide +kernel)
  · exact hgreater punctual false rfl (by decide +kernel) (by decide +kernel)
  · exact hgreater late false rfl (by decide +kernel) (by decide +kernel)

end Rule

end Outreach
