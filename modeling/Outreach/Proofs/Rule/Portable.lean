import Outreach.Proofs.Rule.Meaning
import Outreach.Proofs.Sql.Clause

/-!
# Rules Compile to What a Database Can Compare

The number of a rule is finite, and the reference time of a rule on the last visit
stands on the clock that the rules are read by. Read by a clock of universal time,
rules therefore compile to predicates that a database compares just as they are.

## Theorems

* `Rule.portable_compile`: The predicate of a list of rules.
-/

namespace Outreach

theorem Predicate.allPortable_iff {ps : List Predicate} :
    Predicate.AllPortable ps ↔ ∀ p ∈ ps, p.Portable := by
  induction ps with
  | nil => exact iff_of_true trivial fun p hp => nomatch hp
  | cons p rest ih => rw [Predicate.AllPortable, ih, List.forall_mem_cons]

namespace Rule

theorem isNaN_of_number {value : Text} {x : Double} (h : number value = .ok x) :
    x.isNaN = false := by
  rw [number] at h
  cases hread : readDecimal? value.strip.literal with
  | none =>
      rw [hread] at h
      cases h
  | some numeral =>
      simp only [hread] at h
      by_cases hfinite : numeral.toDouble.isFinite = true
      · rw [if_pos hfinite] at h
        cases h
        rw [Double.isFinite, Bool.and_eq_true, Bool.not_eq_true'] at hfinite
        exact hfinite.1
      · rw [if_neg hfinite] at h
        cases h

/-- The comparison of one rule. -/
theorem portable_compileOne {now : Timestamp} (hnow : now.ahead = some 0) {r : Rule}
    {p : Predicate} (h : compileOne now r = .ok p) : p.Portable := by
  have hnumber : ∀ a ∈ [Attribute.totalSpends, .visits],
      (blame (.text r.value) (number r.value) >>= fun x =>
        .ok (.compare a r.operator.direct (.double x))) = Except.ok p → p.Portable := by
    intro a ha h
    cases hx : number r.value with
    | error problem =>
        rw [hx] at h
        cases h
    | ok x =>
        rw [hx] at h
        cases h
        rcases List.mem_cons.1 ha with rfl | ha
        · exact isNaN_of_number hx
        · cases List.mem_singleton.1 ha
          exact isNaN_of_number hx
  rcases r with ⟨field, operator, value, logic⟩
  cases field with
  | totalSpends => exact hnumber .totalSpends List.mem_cons_self h
  | visits => exact hnumber .visits (List.mem_cons_of_mem _ List.mem_cons_self) h
  | lastVisit =>
      simp only [compileOne] at h
      cases ht : reference value now with
      | error problem =>
          rw [ht] at h
          cases h
      | ok t =>
          rw [ht] at h
          cases h
          rcases instant_reference ht with ⟨days, -, -, hahead⟩
          exact hahead.trans hnow

theorem portable_collapse {group : List Predicate} (h : ∀ p ∈ group, p.Portable) :
    (collapse group).Portable := by
  unfold collapse
  split
  · exact h _ List.mem_cons_self
  · exact Predicate.allPortable_iff.2 h

theorem portable_assemble {terms : List (Logic × Predicate)} (h : ∀ x ∈ terms, x.2.Portable) :
    (assemble terms).Portable := by
  unfold assemble
  split
  · trivial
  · exact h _ List.mem_cons_self
  · refine Predicate.allPortable_iff.2 fun p hp => ?_
    rcases List.mem_map.1 hp with ⟨group, hgroup, rfl⟩
    refine portable_collapse fun q hq => ?_
    rcases mem_of_groups hq _ _ hgroup with hmem | hmem
    · rw [List.mem_singleton.1 hmem]
      exact h _ List.mem_cons_self
    · rcases List.mem_map.1 hmem with ⟨x, hx, rfl⟩
      exact h x (List.mem_cons_of_mem _ hx)

/-- The predicate of a list of rules that is read by a clock of universal time. -/
theorem portable_compile {now : Timestamp} (hnow : now.ahead = some 0) {rules : List Rule}
    {p : Predicate} (h : compile rules now = .ok p) : p.Portable := by
  rw [compile] at h
  cases hmap : rules.mapM (compileOne now) with
  | error fault =>
      rw [hmap] at h
      cases h
  | ok comparisons =>
      rw [hmap] at h
      cases h
      refine portable_assemble fun x hx => ?_
      -- Every comparison is that of one of the rules.
      rcases exists_of_mem_mapM hmap x.2 (List.of_mem_zip hx).2 with ⟨r, -, hr⟩
      exact portable_compileOne hnow hr

end Rule

end Outreach
