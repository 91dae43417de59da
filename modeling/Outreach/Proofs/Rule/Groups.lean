import Outreach.Proofs.Rule.Faults

/-!
# The Groups of a List of Rules

The comparisons of a list are cut into groups: before the first one, and before every later
one whose rule is joined by `or`. Nothing is lost, repeated or moved, so the groups one after
the other are the comparisons in the order of their rules. As no group is empty, each becomes
a comparison or a conjunction of at least two, and can be read off the term that it became.

## Main definitions

* `Predicate.IsComparison`, `Predicate.IsTerm`: The shape of a term.
* `Predicate.members`: The comparisons of a term.
* `Rule.OpensAt`, `Rule.StartsAt`: Behind how many comparisons a group, and a term, begins.
* `Rule.groupsOf`: The groups of a list of rules.

## Theorems

* `Rule.flatten_groups`: The groups one after the other.
* `Rule.length_groups`: How many there are.
* `Rule.opensAt_groups`: Where they begin.
* `Rule.members_collapse`: A group can be read off its term.
* `Rule.compile_shape`: The shape of the predicate of a list.
-/

namespace Outreach

namespace Predicate

/-- One comparison and nothing else. -/
def IsComparison : Predicate → Prop
  | .compare _ _ _ => True
  | _ => False

/-- A comparison, or a conjunction of at least two comparisons. -/
def IsTerm : Predicate → Prop
  | .compare _ _ _ => True
  | .and ps => 2 ≤ ps.length ∧ ∀ p ∈ ps, p.IsComparison
  | _ => False

/-- What stands in a conjunction. Anything else stands for itself. -/
def members : Predicate → List Predicate
  | .and ps => ps
  | p => [p]

theorem members_of_isComparison {p : Predicate} (h : p.IsComparison) : p.members = [p] := by
  cases p with
  | compare subject comparator value => rfl
  | all => cases h
  | and ps => cases h
  | unsupported => cases h

theorem IsComparison.isTerm {p : Predicate} (h : p.IsComparison) : p.IsTerm := by
  cases p with
  | compare subject comparator value => exact h
  | all => cases h
  | and ps => cases h
  | unsupported => cases h

end Predicate

namespace Rule

variable {current : List Predicate} {rest : List (Logic × Predicate)}

/-! ## Groups -/

/-- The groups one after the other are the open group and the rest, in order. -/
theorem flatten_groups (rest : List (Logic × Predicate)) : ∀ current : List Predicate,
    (groups current rest).flatten = current.reverse ++ rest.map Prod.snd := by
  induction rest with
  | nil =>
      intro current
      rw [groups, List.flatten_singleton, List.map_nil, List.append_nil]
  | cons x rest ih =>
      intro current
      rcases x with ⟨logic, p⟩
      cases logic with
      | and =>
          rw [groups, ih, List.reverse_cons, List.append_assoc, List.map_cons]
          rfl
      | or =>
          rw [groups, List.flatten_cons, ih, List.map_cons]
          rfl

/-- Beside the open group there is one for every comparison that is joined by `or`. -/
theorem length_groups (rest : List (Logic × Predicate)) : ∀ current : List Predicate,
    (groups current rest).length = 1 + rest.countP fun x => x.1 = .or := by
  induction rest with
  | nil => exact fun _ => rfl
  | cons x rest ih =>
      intro current
      rcases x with ⟨logic, p⟩
      cases logic with
      | and =>
          rw [groups, ih, List.countP_cons_of_neg (of_decide_eq_true rfl)]
      | or =>
          rw [groups, List.length_cons, ih, List.countP_cons_of_pos (of_decide_eq_true rfl),
            Nat.add_assoc]

theorem ne_nil_of_groups {group : List Predicate} (rest : List (Logic × Predicate)) :
    ∀ current : List Predicate, current ≠ [] → group ∈ groups current rest → group ≠ [] := by
  induction rest with
  | nil =>
      intro current hcurrent hgroup
      rw [List.mem_singleton.1 hgroup]
      exact mt List.reverse_eq_nil_iff.1 hcurrent
  | cons x rest ih =>
      intro current hcurrent hgroup
      rcases x with ⟨logic, p⟩
      cases logic with
      | and => exact ih _ (List.cons_ne_nil p current) hgroup
      | or =>
          rcases List.mem_cons.1 hgroup with rfl | hgroup
          · exact mt List.reverse_eq_nil_iff.1 hcurrent
          · exact ih _ (List.cons_ne_nil p []) hgroup

/-- Some group begins behind `n` comparisons. -/
def OpensAt (gs : List (List Predicate)) (n : Nat) : Prop :=
  ∃ before here after, gs = before ++ here :: after ∧ before.flatten.length = n

theorem opensAt_cons {group : List Predicate} {gs : List (List Predicate)} {n : Nat} :
    OpensAt (group :: gs) n ↔ n = 0 ∨ ∃ m, OpensAt gs m ∧ n = group.length + m := by
  constructor
  · rintro ⟨_ | ⟨first, before⟩, here, after, heq, rfl⟩
    · exact .inl rfl
    · rw [List.cons_append, List.cons.injEq] at heq
      rcases heq with ⟨rfl, heq⟩
      refine .inr ⟨_, ⟨before, here, after, heq, rfl⟩, ?_⟩
      rw [List.flatten_cons, List.length_append]
  · rintro (rfl | ⟨m, ⟨before, here, after, rfl, rfl⟩, rfl⟩)
    · exact ⟨[], group, gs, rfl, rfl⟩
    · refine ⟨group :: before, here, after, rfl, ?_⟩
      rw [List.flatten_cons, List.length_append]

theorem exists_getElem?_cons {α : Type} {a : α} {as : List α} {P : Nat → α → Prop} :
    (∃ i b, (a :: as)[i]? = some b ∧ P i b) ↔
      P 0 a ∨ ∃ i b, as[i]? = some b ∧ P (i + 1) b := by
  constructor
  · rintro ⟨_ | i, b, hb, hP⟩
    · rw [List.getElem?_cons_zero, Option.some.injEq] at hb
      exact .inl (hb ▸ hP)
    · exact .inr ⟨i, b, hb, hP⟩
  · rintro (hP | ⟨i, b, hb, hP⟩)
    · exact ⟨0, a, rfl, hP⟩
    · exact ⟨i + 1, b, hb, hP⟩

/-- Groups begin at the start and at every comparison that is joined by `or`. -/
theorem opensAt_groups (rest : List (Logic × Predicate)) : ∀ (current : List Predicate) (n : Nat),
    OpensAt (groups current rest) n ↔
      n = 0 ∨ ∃ i x, rest[i]? = some x ∧ x.1 = .or ∧ n = current.length + i := by
  induction rest with
  | nil =>
      intro current n
      rw [groups, opensAt_cons]
      refine or_congr_right (iff_of_false ?_ ?_)
      · rintro ⟨m, ⟨before, here, after, heq, -⟩, -⟩
        exact List.append_ne_nil_of_right_ne_nil before (List.cons_ne_nil here after) heq.symm
      · rintro ⟨i, x, hx, -⟩
        cases hx
  | cons x rest ih =>
      intro current n
      rcases x with ⟨logic, p⟩
      rw [exists_getElem?_cons]
      cases logic with
      | and =>
          -- The comparison joins the open group, which is one longer for the rest.
          rw [groups, ih (p :: current), List.length_cons]
          simp only [reduceCtorEq, false_and, false_or, Nat.add_assoc, Nat.add_comm 1]
      | or =>
          rw [groups, opensAt_cons, List.length_reverse]
          simp only [ih [p], true_and, List.length_singleton]
          refine or_congr_right ⟨?_, ?_⟩
          · rintro ⟨m, rfl | ⟨i, x, hx, hor, rfl⟩, rfl⟩
            · exact .inl rfl
            · exact .inr ⟨i, x, hx, hor, by rw [Nat.add_comm 1 i]⟩
          · rintro (rfl | ⟨i, x, hx, hor, rfl⟩)
            · exact ⟨0, .inl rfl, rfl⟩
            · exact ⟨i + 1, .inr ⟨i, x, hx, hor, Nat.add_comm i 1⟩, rfl⟩

/-! ## Terms -/

/-- A group can be read off the term that it became. -/
theorem members_collapse {group : List Predicate} (h : ∀ p ∈ group, p.IsComparison) :
    (collapse group).members = group := by
  unfold collapse
  split
  · exact Predicate.members_of_isComparison (h _ List.mem_cons_self)
  · rfl

/-- A group that is not empty becomes a comparison or a conjunction of at least two. -/
theorem isTerm_collapse {group : List Predicate} (hne : group ≠ [])
    (h : ∀ p ∈ group, p.IsComparison) : (collapse group).IsTerm := by
  match group with
  | [] => exact absurd rfl hne
  | [p] => exact (h p List.mem_cons_self).isTerm
  | p :: q :: ps => exact ⟨Nat.le_add_left 2 ps.length, h⟩

/-- Some term begins behind `n` comparisons. -/
def StartsAt (terms : List Predicate) (n : Nat) : Prop :=
  ∃ before here after, terms = before ++ here :: after ∧
    (before.flatMap Predicate.members).length = n

theorem flatMap_members_collapse {gs : List (List Predicate)}
    (h : ∀ group ∈ gs, ∀ p ∈ group, p.IsComparison) :
    (gs.map collapse).flatMap Predicate.members = gs.flatten := by
  rw [List.flatMap_map, ← List.flatMap_id]
  exact List.flatMap_congr fun group hgroup => members_collapse (h group hgroup)

theorem startsAt_collapse {gs : List (List Predicate)} {n : Nat}
    (h : ∀ group ∈ gs, ∀ p ∈ group, p.IsComparison) :
    StartsAt (gs.map collapse) n ↔ OpensAt gs n := by
  constructor
  · rintro ⟨terms, here, after, heq, rfl⟩
    rcases List.map_eq_append_iff.1 heq with ⟨before, more, rfl, rfl, hmore⟩
    rcases List.map_eq_cons_iff.1 hmore with ⟨group, others, rfl, rfl, rfl⟩
    rw [flatMap_members_collapse fun g hg => h g (List.mem_append_left _ hg)]
    exact ⟨before, group, others, rfl, rfl⟩
  · rintro ⟨before, group, others, rfl, rfl⟩
    refine ⟨before.map collapse, collapse group, others.map collapse, ?_, ?_⟩
    · rw [List.map_append, List.map_cons]
    · rw [flatMap_members_collapse fun g hg => h g (List.mem_append_left _ hg)]

/-! ## Compiled lists -/

theorem isComparison_of_compileOne {now : Timestamp} {r : Rule} {p : Predicate}
    (h : compileOne now r = .ok p) : p.IsComparison := by
  rcases eq_of_compileOne h with ⟨x, -, rfl⟩ | ⟨t, -, -, rfl⟩ <;> trivial

/-- A rule that has a comparison is compiled to it. -/
theorem compileOne_eq_comparison {now : Timestamp} {r : Rule}
    (h : ∃ p, compileOne now r = .ok p) : compileOne now r = .ok (comparison now r) := by
  rcases h with ⟨p, hp⟩
  rw [hp, comparison, hp]

/-- The groups of the comparisons of at least one rule. -/
def groupsOf (now : Timestamp) (first : Rule) (others : List Rule) : List (List Predicate) :=
  groups [comparison now first] (others.map fun r => (r.logic, comparison now r))

section

variable {now : Timestamp} {first : Rule} {others : List Rule}

theorem flatten_groupsOf :
    (groupsOf now first others).flatten = (first :: others).map (comparison now) := by
  rw [groupsOf, flatten_groups, List.map_map]
  rfl

theorem isComparison_of_groupsOf
    (h : ∀ r ∈ first :: others, compileOne now r = .ok (comparison now r)) :
    ∀ group ∈ groupsOf now first others, ∀ p ∈ group, p.IsComparison := by
  intro group hgroup p hp
  have hmem : p ∈ (groupsOf now first others).flatten := List.mem_flatten.2 ⟨group, hgroup, hp⟩
  rw [flatten_groupsOf] at hmem
  rcases List.mem_map.1 hmem with ⟨r, hr, rfl⟩
  exact isComparison_of_compileOne (h r hr)

/-- At least two rules are compiled to the conjunction of their groups. -/
theorem compile_eq_groupsOf (hothers : others ≠ [])
    (h : ∀ r ∈ first :: others, compileOne now r = .ok (comparison now r)) :
    compile (first :: others) now = .ok (.and ((groupsOf now first others).map collapse)) := by
  rw [compile, mapM_eq_map h]
  change Except.ok (assemble _) = _
  rw [List.zip_map']
  cases others with
  | nil => exact absurd rfl hothers
  | cons second others => rfl

/-- Groups begin at the first rule and at each rule that is joined by `or`. -/
theorem opensAt_groupsOf {i : Nat} {r : Rule} (hr : (first :: others)[i]? = some r) :
    OpensAt (groupsOf now first others) i ↔ i = 0 ∨ r.logic = .or := by
  rw [groupsOf, opensAt_groups, List.length_singleton]
  cases i with
  | zero => exact iff_of_true (.inl rfl) (.inl rfl)
  | succ i =>
      rw [List.getElem?_cons_succ] at hr
      have hx : (others.map fun r => (r.logic, comparison now r))[i]? =
          some (r.logic, comparison now r) := by
        rw [List.getElem?_map, hr]
        rfl
      refine or_congr_right ⟨?_, fun hor => ⟨i, _, hx, hor, Nat.add_comm i 1⟩⟩
      rintro ⟨j, x, hj, hor, hij⟩
      rw [Nat.add_comm 1 j] at hij
      rw [← Nat.succ.inj hij, hx] at hj
      cases hj
      exact hor

end

/-- The predicate of at least two rules that can be compiled is a conjunction. Its terms are
    comparisons or conjunctions of at least two, one for the first rule and one for each later
    rule that is joined by `or`. Their comparisons from left to right are those of the rules in
    order, and a term begins at the first rule and at each rule that is joined by `or`. -/
theorem compile_shape {rules : List Rule} {now : Timestamp} (htwo : 2 ≤ rules.length)
    (h : ∀ r ∈ rules, ∃ p, compileOne now r = .ok p) :
    ∃ terms, compile rules now = .ok (.and terms) ∧
      terms.length = 1 + (rules.tail.countP fun r => r.logic = .or) ∧
      (∀ t ∈ terms, t.IsTerm) ∧
      rules.mapM (compileOne now) = .ok (terms.flatMap Predicate.members) ∧
      ∀ i r, rules[i]? = some r → (StartsAt terms i ↔ i = 0 ∨ r.logic = .or) := by
  have hall : ∀ r ∈ rules, compileOne now r = .ok (comparison now r) := fun r hr =>
    compileOne_eq_comparison (h r hr)
  match rules with
  | first :: second :: others =>
    have hcomparisons := isComparison_of_groupsOf hall
    refine ⟨_, compile_eq_groupsOf (List.cons_ne_nil second others) hall, ?_, ?_, ?_, ?_⟩
    · rw [List.length_map, groupsOf, length_groups, List.countP_map]
      rfl
    · intro t ht
      rcases List.mem_map.1 ht with ⟨group, hgroup, rfl⟩
      exact isTerm_collapse (ne_nil_of_groups _ _ (List.cons_ne_nil _ _) hgroup)
        (hcomparisons group hgroup)
    · rw [flatMap_members_collapse hcomparisons, flatten_groupsOf, mapM_eq_map hall]
    · intro i r hr
      rw [startsAt_collapse hcomparisons, opensAt_groupsOf hr]

/-- Two groups, though the first rule is joined by `or` as well. -/
theorem compile_shape_sample :
    let now : Timestamp := ⟨⟨2024, 3, 1⟩, 0, some 0⟩
    let rules : List Rule := [⟨.visits, .greater, "1", .or⟩, ⟨.lastVisit, .less, "30", .and⟩,
      ⟨.totalSpends, .equal, "9.5", .or⟩]
    (2 ≤ rules.length ∧ ∀ r ∈ rules, ∃ p, compileOne now r = .ok p) ∧
      ∃ terms, compile rules now = .ok (.and terms) ∧ terms.length = 2 ∧ StartsAt terms 2 ∧
        ¬StartsAt terms 1 := by
  intro now rules
  have hparses : ∀ r ∈ rules, r.Parses now := by decide +kernel
  have hcompiled : ∀ r ∈ rules, ∃ p, compileOne now r = .ok p := fun r hr =>
    exists_compileOne_iff.2 (hparses r hr)
  rcases compile_shape (by decide) hcompiled with ⟨terms, hterms, hlength, -, -, hstarts⟩
  refine ⟨⟨by decide, hcompiled⟩, terms, hterms, hlength, (hstarts 2 _ rfl).2 (.inr rfl), ?_⟩
  rw [hstarts 1 _ rfl]
  decide

end Rule

end Outreach
