import Outreach.Proofs.Rule.Meaning
import Outreach.Proofs.Time.Calendar

/-!
# What Rules Can Fail With

A list of rules is not compiled only because of a value that cannot be read.

A list that was compiled asks customers for spend, visits and last visit, all
of which they have. Numbers can always be compared, NaN included. Only timestamps
cannot be, if one of them is aware and the other naive. So the one way in which a
customer cannot be matched is a rule on the last visit whose reference time is of the
other kind than the visit.

A conjunction stops at its first false term and then does not come to a term that would
fail. Matching may thus succeed although the kinds are mixed, but never fails otherwise.

## Main definitions

* `Rule.Mixes`: A rule that sets an aware time against a naive one.
* `Rule.Accepted`: A rule whose value suits its field.
* `Rule.entry`: What is read of a rule.

## Theorems

* `Predicate.exists_of_allMatch_error`: A conjunction fails only if a term does.
* `Predicate.fault_of_matches`: What any condition can fail with.
* `Rule.mixes_of_matches_error`: A list fails only by mixing kinds.
* `Rule.exists_matches`: Otherwise every customer is matched.
* `Rule.first_of_compile_error`: A list is not compiled because of the first value that
  cannot be read.
* `Rule.parses_iff_accepted`: The values that suit are those that can be read.
* `Rule.compile_verdict`: Which lists are compiled, and what is said of the others.
-/

namespace Outreach

variable {c : Customer} {f : Fault}

/-- A conjunction fails only if a term does. -/
theorem Predicate.exists_of_allMatch_error {ps : List Predicate} (h : allMatch c ps = .error f) :
    ∃ p ∈ ps, p.matches c = .error f := by
  induction ps with
  | nil => cases h
  | cons p rest ih =>
      rw [allMatch] at h
      cases hp : p.matches c with
      | error g =>
          rw [hp] at h
          cases h
          exact ⟨p, List.mem_cons_self, hp⟩
      | ok holds =>
          rw [hp] at h
          cases holds with
          | false => cases h
          | true =>
              rcases ih h with ⟨q, hq, hfault⟩
              exact ⟨q, List.mem_cons_of_mem p hq, hfault⟩

mutual

/-- A customer cannot be matched only because a value is of the wrong type or not there
    at all. -/
theorem Predicate.fault_of_matches : ∀ p : Predicate, p.matches c = .error f →
    f = .wrongType ∨ f = .noAttribute
  | .all, h => nomatch h
  | .compare subject comparator value, h => by
      rw [Predicate.matches] at h
      cases hfact : c.fact? subject with
      | none =>
          rw [hfact] at h
          cases h
          exact Or.inr rfl
      | some fact =>
          simp only [hfact] at h
          cases hstanding : fact.standing value with
          | mismatched =>
              simp only [hstanding, Comparator.decide] at h
              split at h <;> cases h
              exact Or.inl rfl
          | _ =>
              rw [hstanding] at h
              cases h
  | .and terms, h => by
      rw [Predicate.matches] at h
      exact Predicate.fault_of_allMatch terms h
  | .unsupported, h => by
      rw [Predicate.matches] at h
      cases h
      exact Or.inr rfl

/-- Neither can it be for any other reason where several conditions are to hold. -/
theorem Predicate.fault_of_allMatch : ∀ ps : List Predicate, allMatch c ps = .error f →
    f = .wrongType ∨ f = .noAttribute
  | [], h => nomatch h
  | p :: rest, h => by
      rw [allMatch] at h
      cases hp : p.matches c with
      | error g =>
          rw [hp] at h
          cases h
          exact Predicate.fault_of_matches p hp
      | ok holds =>
          rw [hp] at h
          cases holds with
          | false => cases h
          | true => exact Predicate.fault_of_allMatch rest h

end

namespace Rule

theorem exists_of_collapse_error {group : List Predicate}
    (h : (collapse group).matches c = .error f) : ∃ p ∈ group, p.matches c = .error f := by
  unfold collapse at h
  split at h
  case h_1 p => exact ⟨p, List.mem_cons_self, h⟩
  case h_2 =>
    rw [Predicate.matches] at h
    exact Predicate.exists_of_allMatch_error h

/-- The predicate of some comparisons fails only if a comparison does. -/
theorem exists_of_assemble_error {terms : List (Logic × Predicate)}
    (h : (assemble terms).matches c = .error f) : ∃ x ∈ terms, x.2.matches c = .error f := by
  unfold assemble at h
  split at h
  case h_1 => cases h
  case h_2 logic p => exact ⟨(logic, p), List.mem_cons_self, h⟩
  case h_3 logic p rest _ =>
    rw [Predicate.matches] at h
    rcases Predicate.exists_of_allMatch_error h with ⟨q, hq, hfault⟩
    rcases List.mem_map.1 hq with ⟨group, hgroup, rfl⟩
    rcases exists_of_collapse_error hfault with ⟨s, hs, hfault⟩
    -- Every comparison in a group is one of the list.
    rcases mem_of_groups hs rest [p] hgroup with hmem | hmem
    · rw [List.mem_singleton.1 hmem] at hfault
      exact ⟨(logic, p), List.mem_cons_self, hfault⟩
    · rcases List.mem_map.1 hmem with ⟨x, hx, rfl⟩
      exact ⟨x, List.mem_cons_of_mem _ hx, hfault⟩

/-- A rule on the last visit that sets an aware time against a naive one. -/
def Mixes (now : Timestamp) (c : Customer) (r : Rule) : Prop :=
  r.field = .lastVisit ∧ c.lastVisit.isAware ≠ now.isAware

instance (now : Timestamp) (c : Customer) (r : Rule) : Decidable (r.Mixes now c) :=
  inferInstanceAs (Decidable (_ ∧ _))

/-- The comparison of a rule is one with a number, or with the reference time. -/
theorem eq_of_compileOne {now : Timestamp} {r : Rule} {p : Predicate}
    (hp : compileOne now r = .ok p) :
    (∃ x, (r.field = .totalSpends ∨ r.field = .visits) ∧
      p = .compare r.field.attribute r.operator.direct (.double x)) ∨
    ∃ t, r.field = .lastVisit ∧ reference r.value now = .ok t ∧
      p = .compare .lastVisit r.operator.inverted (.time t) := by
  have hblame : ∀ {α : Type} (x : Except ValueProblem α) (g : α → Predicate),
      (blame (.text r.value) x >>= fun a => .ok (g a)) = .ok p → ∃ a, x = .ok a ∧ p = g a := by
    intro α x g h
    cases x with
    | error problem => cases h
    | ok a =>
        cases h
        exact ⟨a, rfl, rfl⟩
  rcases r with ⟨field, operator, value, logic⟩
  cases field with
  | totalSpends =>
      rcases hblame _ (fun x => .compare .totalSpends operator.direct (.double x)) hp with
        ⟨x, -, rfl⟩
      exact Or.inl ⟨x, Or.inl rfl, rfl⟩
  | visits =>
      rcases hblame _ (fun x => .compare .visits operator.direct (.double x)) hp with ⟨x, -, rfl⟩
      exact Or.inl ⟨x, Or.inr rfl, rfl⟩
  | lastVisit =>
      rcases hblame _ (fun t => .compare .lastVisit operator.inverted (.time t)) hp with
        ⟨t, ht, rfl⟩
      exact Or.inr ⟨t, rfl, ht, rfl⟩

/-- The comparison of a rule fails only by mixing kinds. -/
theorem mixes_of_compileOne {now : Timestamp} {r : Rule} {p : Predicate}
    (hp : compileOne now r = .ok p) (h : p.matches c = .error f) :
    f = .wrongType ∧ r.Mixes now c := by
  rcases eq_of_compileOne hp with ⟨x, hfield, rfl⟩ | ⟨t, hfield, ht, rfl⟩
  -- Numbers stand to each other in some way.
  · have hnumber : ∃ o, (c.fact? r.field.attribute).map (fun a => a.standing (.double x)) =
        some (.ofOrder? o) := by
      rcases hfield with hfield | hfield <;> rw [hfield] <;> exact ⟨_, rfl⟩
    rcases hnumber with ⟨o, ho⟩
    rcases Option.map_eq_some_iff.1 ho with ⟨fact, hfact, hstanding⟩
    -- A NaN stands in no order to a number, which decides the comparison as well.
    have hdecided : ∃ holds, r.operator.direct.decide (.ofOrder? o) = .ok holds := by
      cases o <;> exact ⟨_, rfl⟩
    rcases hdecided with ⟨holds, hholds⟩
    rw [Predicate.matches, hfact] at h
    simp only [hstanding, hholds] at h
    cases h
  · -- The reference time is of the kind of the time that it was counted from.
    rcases instant_reference ht with ⟨days, -, -, hahead⟩
    have hkind : t.isAware = now.isAware := congrArg Option.isSome hahead
    simp only [Predicate.matches, Customer.fact?, Fact.standing, Timestamp.compare?] at h
    by_cases hsame : c.lastVisit.isAware = t.isAware
    · rw [if_pos hsame] at h
      cases h
    · rw [if_neg hsame] at h
      rw [hkind] at hsame
      simp only [Comparator.decide] at h
      split at h <;> cases h
      exact ⟨rfl, hfield, hsame⟩

/-- A list fails only by mixing kinds. -/
theorem mixes_of_matches_error {now : Timestamp} {rules : List Rule} {p : Predicate}
    (hp : compile rules now = .ok p) (h : p.matches c = .error f) :
    f = .wrongType ∧ ∃ r ∈ rules, r.Mixes now c := by
  rw [compile] at hp
  cases hcomparisons : rules.mapM (compileOne now) with
  | error g =>
      rw [hcomparisons] at hp
      cases hp
  | ok comparisons =>
      rw [hcomparisons] at hp
      cases hp
      rcases exists_of_assemble_error h with ⟨x, hx, hfault⟩
      rcases exists_of_mem_mapM hcomparisons x.2 (List.of_mem_zip hx).2 with ⟨r, hr, hcompiled⟩
      rcases mixes_of_compileOne hcompiled hfault with ⟨hf, hmixes⟩
      exact ⟨hf, r, hr, hmixes⟩

/-- Where no rule mixes kinds, a customer is matched. -/
theorem exists_matches {now : Timestamp} {rules : List Rule} {p : Predicate}
    (hp : compile rules now = .ok p) (h : ∀ r ∈ rules, ¬r.Mixes now c) :
    ∃ holds, p.matches c = .ok holds := by
  cases hmatches : p.matches c with
  | ok holds => exact ⟨holds, rfl⟩
  | error f =>
      rcases mixes_of_matches_error hp hmatches with ⟨-, r, hr, hmixes⟩
      exact absurd hmixes (h r hr)

/-! ## Compiling -/

/-- Where a list has no results, there is a first item that has none. -/
theorem first_of_mapM_error {ε α β : Type} {g : α → Except ε β} {e : ε} {as : List α}
    (h : as.mapM g = .error e) :
    ∃ before a after, as = before ++ a :: after ∧ (∀ b ∈ before, ∃ x, g b = .ok x) ∧
      g a = .error e := by
  induction as with
  | nil => cases h
  | cons a as ih =>
      rw [List.mapM_cons] at h
      cases ha : g a with
      | error d =>
          rw [ha] at h
          cases h
          exact ⟨[], a, as, rfl, nofun, ha⟩
      | ok x =>
          cases has : as.mapM g with
          | error d =>
              rw [ha, has] at h
              cases h
              rcases ih has with ⟨before, a', after, rfl, hbefore, hfault⟩
              exact ⟨a :: before, a', after, rfl, List.forall_mem_cons.2 ⟨⟨x, ha⟩, hbefore⟩, hfault⟩
          | ok xs =>
              rw [ha, has] at h
              cases h

/-- A rule is not compiled because of its value. -/
theorem ruleValue_of_compileOne_error {now : Timestamp} {r : Rule}
    (h : compileOne now r = .error f) : ∃ problem, f = .ruleValue (.text r.value) problem := by
  have hblame : ∀ {α : Type} (x : Except ValueProblem α) (g : α → Predicate),
      (blame (.text r.value) x >>= fun a => .ok (g a)) = .error f →
        ∃ problem, f = .ruleValue (.text r.value) problem := by
    intro α x g h
    cases x with
    | error problem =>
        cases h
        exact ⟨problem, rfl⟩
    | ok a => cases h
  rcases r with ⟨field, operator, value, logic⟩
  cases field with
  | totalSpends => exact hblame _ (fun x => .compare .totalSpends operator.direct (.double x)) h
  | visits => exact hblame _ (fun x => .compare .visits operator.direct (.double x)) h
  | lastVisit => exact hblame _ (fun t => .compare .lastVisit operator.inverted (.time t)) h

/-- A list is not compiled because of the first of its rules whose value cannot be read. -/
theorem first_of_compile_error {now : Timestamp} {rules : List Rule}
    (h : compile rules now = .error f) :
    ∃ before r after problem, rules = before ++ r :: after ∧ (∀ b ∈ before, b.Parses now) ∧
      ¬r.Parses now ∧ f = .ruleValue (.text r.value) problem := by
  rw [compile] at h
  cases hcomparisons : rules.mapM (compileOne now) with
  | ok comparisons =>
      rw [hcomparisons] at h
      cases h
  | error g =>
      rw [hcomparisons] at h
      cases h
      rcases first_of_mapM_error hcomparisons with ⟨before, r, after, rfl, hbefore, hfault⟩
      rcases ruleValue_of_compileOne_error hfault with ⟨problem, hf⟩
      refine ⟨before, r, after, problem, rfl, ?_, ?_, hf⟩
      · exact fun b hb => exists_compileOne_iff.1 (hbefore b hb)
      · intro hparses
        rcases exists_compileOne_iff.2 hparses with ⟨p, hp⟩
        cases hfault.symm.trans hp

/-- A list is not compiled because of the value of one of its rules. -/
theorem ruleValue_of_compile_error {now : Timestamp} {rules : List Rule}
    (h : compile rules now = .error f) :
    ∃ r ∈ rules, ∃ problem, f = .ruleValue (.text r.value) problem := by
  rcases first_of_compile_error h with ⟨before, r, after, problem, rfl, -, -, hf⟩
  exact ⟨r, List.mem_append_right before List.mem_cons_self, problem, hf⟩

end Rule

/-! ## Which rules compile

A list of rules is compiled just if every value suits its field: a number for spend and
visits, and for the last visit a count of days that leads back to a day of the calendar.
The first value that does not suit is the one that is blamed, and there is no other way
to fail: no value is so large that arithmetic on it would be.

Nothing else of a rule matters, and neither does its place in the list. -/

namespace Rule

variable {now : Timestamp} {r s : Rule}

/-- A rule whose value suits its field: a number, or a count of days that, on the clock of
    the time at which it is read, leads back to no day before the first one. -/
def Accepted (now : Timestamp) (r : Rule) : Prop :=
  match r.field with
  | .lastVisit => ∃ days : Nat, parseDayCount (.text r.value) = .ok days ∧
      days ≤ Timestamp.dayCountLimit ∧ 0 ≤ now.wall - days * dayMicros
  | _ => ∃ x, parseNumber (.text r.value) = .ok x

/-- Only a value that cannot be read is blamed. -/
theorem blame_eq_ok_iff {α : Type} {value : Json} {x : Except ValueProblem α} {a : α} :
    blame value x = .ok a ↔ x = .ok a := by
  cases x with
  | error problem => exact iff_of_false nofun nofun
  | ok b =>
      rw [blame, Except.ok.injEq, Except.ok.injEq]

/-- There is a reference time for just the counts that a clock can be set back by. -/
theorem exists_reference_iff {value : Text} :
    (∃ t, reference value now = .ok t) ↔
      ∃ days, dayCount value = .ok days ∧ ∃ t, now.minusDays? days = some t := by
  rw [reference]
  cases hdays : dayCount value with
  | error problem =>
      refine iff_of_false ?_ ?_
      · rintro ⟨t, ht⟩
        cases ht
      · rintro ⟨days, hdays, -⟩
        cases hdays
  | ok days =>
      simp only [bind, Except.bind, Except.ok.injEq, exists_eq_left']
      cases now.minusDays? days with
      | none => refine iff_of_false ?_ ?_ <;> rintro ⟨t, ht⟩ <;> cases ht
      | some t => exact iff_of_true ⟨t, rfl⟩ ⟨t, rfl⟩

/-- The values that suit their fields are those that can be read. -/
theorem parses_iff_accepted (hnow : now.Valid) : r.Parses now ↔ r.Accepted now := by
  rcases r with ⟨field, operator, value, logic⟩
  cases field with
  | totalSpends => exact exists_congr fun x => blame_eq_ok_iff.symm
  | visits => exact exists_congr fun x => blame_eq_ok_iff.symm
  | lastVisit =>
      refine exists_reference_iff.trans (exists_congr fun days => ?_)
      rw [Timestamp.exists_minusDays?_iff hnow]
      exact and_congr_left' blame_eq_ok_iff.symm

/-- What is read of a rule: its value, in view of its field. -/
def entry (r : Rule) : Field × Text :=
  (r.field, r.value)

theorem accepted_of_entry (h : r.entry = s.entry) (hs : s.Accepted now) : r.Accepted now := by
  rcases r with ⟨field, operator, value, logic⟩
  rcases s with ⟨field', operator', value', logic'⟩
  simp only [entry, Prod.mk.injEq] at h
  rcases h with ⟨rfl, rfl⟩
  exact hs

/-- Rules with the same entries, in any order, are accepted alike. -/
theorem accepted_of_perm {rules others : List Rule}
    (h : (others.map entry).Perm (rules.map entry)) (hrules : ∀ r ∈ rules, r.Accepted now) :
    ∀ r ∈ others, r.Accepted now := by
  intro r hr
  rcases List.mem_map.1 (h.subset (List.mem_map_of_mem hr)) with ⟨s, hs, heq⟩
  exact accepted_of_entry heq.symm (hrules s hs)

/-- A list of rules is compiled just if every value suits its field. Otherwise the first
    value that does not is blamed, and this is the only way to fail. Neither the order of
    the rules nor their operators and logic make a difference to the verdict. -/
theorem compile_verdict (hnow : now.Valid) (rules : List Rule) :
    ((∃ p, compile rules now = .ok p) ↔ ∀ r ∈ rules, r.Accepted now) ∧
      (∀ f, compile rules now = .error f → f.kind = "InvalidRuleError" ∧
        ∃ before r after problem, rules = before ++ r :: after ∧
          (∀ b ∈ before, b.Accepted now) ∧ ¬r.Accepted now ∧
          f = .ruleValue (.text r.value) problem) ∧
      ∀ others : List Rule, (others.map entry).Perm (rules.map entry) →
        ((∃ p, compile others now = .ok p) ↔ ∃ p, compile rules now = .ok p) := by
  have hcompiles (rules : List Rule) :
      (∃ p, compile rules now = .ok p) ↔ ∀ r ∈ rules, r.Accepted now :=
    exists_compile_iff.trans (forall₂_congr fun r _ => parses_iff_accepted hnow)
  refine ⟨hcompiles rules, ?_, ?_⟩
  · intro f hf
    rcases first_of_compile_error hf with ⟨before, r, after, problem, hrules, hbefore, hr, rfl⟩
    simp only [parses_iff_accepted hnow] at hbefore hr
    exact ⟨rfl, before, r, after, problem, hrules, hbefore, hr, rfl⟩
  · intro others hperm
    rw [hcompiles, hcompiles]
    exact ⟨accepted_of_perm hperm.symm, accepted_of_perm hperm⟩

/-- On June 1, 2024, a customer can be asked to have stayed away since the first day of
    the calendar, 739037 days ago, but not for a day more. -/
theorem compile_verdict_sample :
    let now : Timestamp := ⟨⟨2024, 6, 1⟩, 43200000000, some 0⟩
    let rules (days : Text) : List Rule := [⟨.totalSpends, .greater, " 1e3 ", .and⟩,
      ⟨.lastVisit, .greaterEqual, days, .or⟩]
    now.Valid ∧ (∃ p, compile (rules "739037") now = .ok p) ∧
      (∀ p, compile (rules "739038") now ≠ .ok p) ∧
      ∃ p, compile (rules "739037").reverse now = .ok p := by
  intro now rules
  have hnow : now.Valid := by
    refine ⟨by decide, by decide, ?_⟩
    rintro o ⟨⟩
    decide
  have hlast : ∀ r ∈ rules "739037", r.Parses now := by decide +kernel
  have hbeyond : ¬∀ r ∈ rules "739038", r.Parses now := by decide +kernel
  simp only [parses_iff_accepted hnow] at hlast hbeyond
  have hcompiled := (compile_verdict hnow (rules "739037")).1.2 hlast
  refine ⟨hnow, hcompiled, ?_, ?_⟩
  · exact fun p hp => hbeyond ((compile_verdict hnow (rules "739038")).1.1 ⟨p, hp⟩)
  · exact ((compile_verdict hnow (rules "739037")).2.2 _ (by decide +kernel)).2 hcompiled

end Rule

end Outreach
