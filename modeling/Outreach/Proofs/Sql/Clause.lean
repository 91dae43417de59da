import Mathlib.Algebra.Group.Int.Defs
import Outreach.Store.Database

/-!
# A Clause Selects Whom Its Predicate Matches

A predicate is a tree, and its clause a flat list of terms: conjunctions lose
their parentheses, conditions that always hold vanish or stay, parameters are
numbered. None of this matters, because both come down to the same list. A
predicate holds of a customer just if all its comparisons do, read from left to
right, and a clause holds of a row just if the same comparisons do.

The database compares what a row keeps, and a predicate what a customer says. On
spend, visits and a last visit in universal time the two agree.

## Main definitions

* `Comparison`: A comparison of a column.
* `Predicate.comparisons`: The comparisons of a predicate, from left to right.
* `Predicate.Portable`: The predicates that mean the same in a database.
* `Comparison.Suitable`: Their comparisons.
* `CustomerRow.Shows`: A row that keeps what a customer says.

## Theorems

* `Predicate.matches_eq_all`: A predicate holds just if its comparisons do.
* `Predicate.exists_clause`: Its clause is made of the same comparisons.
* `Clause.all_conditions`: A clause holds just if its comparisons do.
-/

namespace Outreach

/-! ## Comparisons -/

/-- A comparison of a column with a value. -/
structure Comparison where
  column : String
  comparator : Comparator
  value : Operand
  deriving DecidableEq

/-- Whether a comparison holds of a row. -/
def Comparison.holds (row : String → SqlValue) (x : Comparison) : Bool :=
  SqlValue.satisfies x.comparator (row x.column) x.value.sqlValue

/-- The comparison of a term, if it is one. -/
def ClauseTerm.comparison? : ClauseTerm → Option Comparison
  | .always => none
  | .never => none
  | .compare column comparator value => some ⟨column, comparator, value⟩

/-- What a database can compare with an attribute just as a predicate does: a
    number that is one, and a time on a clock of universal time. -/
def Operand.Suits : Operand → Attribute → Prop
  | .double x, .totalSpends => x.isNaN = false
  | .double x, .visits => x.isNaN = false
  | .int n, .totalSpends => -2 ^ 31 ≤ n ∧ n < 2 ^ 31
  | .int n, .visits => -2 ^ 31 ≤ n ∧ n < 2 ^ 31
  | .time t, .lastVisit => t.ahead = some 0
  | _, _ => False

mutual

/-- The comparisons of a predicate, from left to right. -/
def Predicate.comparisons : Predicate → List Comparison
  | .all => []
  | .compare subject comparator value =>
    (subject.column?.map fun column => ⟨column, comparator, value⟩).toList
  | .and terms => Predicate.listComparisons terms
  | .unsupported => []

/-- The comparisons of some predicates, from left to right. -/
def Predicate.listComparisons : List Predicate → List Comparison
  | [] => []
  | p :: rest => p.comparisons ++ Predicate.listComparisons rest

end

mutual

/-- The predicates that mean the same in a database. -/
def Predicate.Portable : Predicate → Prop
  | .all => True
  | .compare subject _ value => value.Suits subject
  | .and terms => Predicate.AllPortable terms
  | .unsupported => False

/-- Predicates all of which mean the same in a database. -/
def Predicate.AllPortable : List Predicate → Prop
  | [] => True
  | p :: rest => p.Portable ∧ Predicate.AllPortable rest

end

/-- The attributes that customers are selected by. -/
def Attribute.selecting : List Attribute := [.totalSpends, .visits, .lastVisit]

theorem Operand.Suits.mem_selecting {v : Operand} {a : Attribute} (h : v.Suits a) :
    a ∈ Attribute.selecting := by
  cases v <;> cases a <;> first | exact h.elim | decide

theorem Attribute.column?_of_selecting {a : Attribute} (h : a ∈ Attribute.selecting) :
    ∃ column, a.column? = some column := by
  simp only [Attribute.selecting, List.mem_cons, List.not_mem_nil, or_false] at h
  rcases h with rfl | rfl | rfl
  · exact ⟨"total_spends", by decide⟩
  · exact ⟨"visits", by decide⟩
  · exact ⟨"last_visit", by decide⟩

/-! ## The predicate -/

/-- A row that keeps what a customer says: spend and visits, and the instant of
    the last visit as a clock of universal time showed it. -/
structure CustomerRow.Shows (r : CustomerRow) (c : Customer) : Prop where
  totalSpends : r.customer.totalSpends = c.totalSpends
  visits : r.customer.visits = c.visits
  lastVisit : r.customer.lastVisit.wall = c.lastVisit.instant
  aware : c.lastVisit.isAware = true
  number : c.totalSpends.isNaN = false

section

variable {row : CustomerRow} {c : Customer}

theorem Comparator.decide_ofOrder? (x : Comparator) (o : Option Ordering) :
    x.decide (.ofOrder? o) = .ok (o.any x.accepts) := by
  cases o <;> rfl

theorem Timestamp.wall_of_utc {t : Timestamp} (h : t.ahead = some 0) : t.wall = t.instant := by
  rw [instant, h]
  exact (Int.sub_zero _).symm

/-- A row shows the customer that it is loaded as, its timestamps being naive and
    its spend a number. -/
theorem CustomerRow.shows_of_loaded {r : CustomerRow} (h : Database.loaded r = .ok c)
    (hnaive : r.customer.lastVisit.ahead = none) (hnumber : r.customer.totalSpends.isNaN = false) :
    r.Shows c := by
  unfold Database.loaded Customer.validated at h
  have hvisit : inUtc r.customer.lastVisit = .ok { r.customer.lastVisit with ahead := some 0 } := by
    rw [inUtc, Timestamp.toUtc?, hnaive]
  simp only [hvisit, bind, Except.bind, pure, Except.pure, throw, throwThe,
    MonadExceptOf.throw] at h
  -- Every check was passed, or nothing would have been loaded.
  repeat' split at h
  all_goals cases h
  exact ⟨rfl, rfl, (Int.sub_zero _).symm, rfl, hnumber⟩

/-- A comparison of what a row keeps decides as one of what the customer says. -/
theorem CustomerRow.Shows.matches_compare (h : row.Shows c) {a : Attribute} {v : Operand}
    (hv : v.Suits a) (x : Comparator) :
    (Predicate.compare a x v).matches c =
      .ok ((Predicate.compare a x v).comparisons.all (Comparison.holds (SqlRow.column row))) := by
  have hspend : SqlRow.column row "total_spends" = .double c.totalSpends := by
    change SqlValue.ofDouble row.customer.totalSpends = _
    rw [h.totalSpends, SqlValue.ofDouble, h.number]
    rfl
  have hvisits : SqlRow.column row "visits" = .int c.visits := by
    change SqlValue.int row.customer.visits = _
    rw [h.visits]
  have hvisit : SqlRow.column row "last_visit" = .time row.customer.lastVisit := rfl
  rcases Attribute.column?_of_selecting hv.mem_selecting with ⟨column, hcolumn⟩
  simp only [Predicate.comparisons, hcolumn, Option.map_some, Option.toList_some, List.all_cons,
    List.all_nil, Bool.and_true, Comparison.holds, Predicate.matches]
  cases a with
  | totalSpends =>
      cases (show some "total_spends" = some column from hcolumn ▸ by decide)
      rw [hspend]
      -- Both sides ask the same comparison of numbers.
      cases v with
      | int m => exact Comparator.decide_ofOrder? x _
      | double y => exact Comparator.decide_ofOrder? x _
      | time t => exact hv.elim
  | visits =>
      cases (show some "visits" = some column from hcolumn ▸ by decide)
      rw [hvisits]
      cases v with
      | int m => rfl
      | double y => exact Comparator.decide_ofOrder? x _
      | time t => exact hv.elim
  | lastVisit =>
      cases (show some "last_visit" = some column from hcolumn ▸ by decide)
      rw [hvisit]
      cases v with
      | int m => exact hv.elim
      | double y => exact hv.elim
      | time t =>
          -- A clock of universal time shows the instant itself.
          have haware : c.lastVisit.isAware = t.isAware := by
            rw [h.aware, Timestamp.isAware, show t.ahead = some 0 from hv]
            rfl
          have hwall : t.wall = t.instant := Timestamp.wall_of_utc hv
          simp only [Customer.fact?, Fact.standing, Timestamp.compare?, haware, if_true,
            Comparator.decide, Operand.sqlValue, SqlValue.satisfies, SqlValue.order?,
            Option.any_some, h.lastVisit, hwall]
  | _ => cases v <;> exact hv.elim

mutual

/-- A predicate holds of a customer just if its comparisons hold of the row. -/
theorem Predicate.matches_eq_all (h : row.Shows c) : ∀ p : Predicate, p.Portable →
    p.matches c = .ok (p.comparisons.all (Comparison.holds (SqlRow.column row)))
  | .all, _ => rfl
  | .compare _ x _, hp => h.matches_compare hp x
  | .and terms, hp => Predicate.allMatch_eq_all h terms hp
  | .unsupported, hp => hp.elim

/-- All of some predicates hold just if all their comparisons do. -/
theorem Predicate.allMatch_eq_all (h : row.Shows c) : ∀ ps : List Predicate, AllPortable ps →
    allMatch c ps = .ok ((listComparisons ps).all (Comparison.holds (SqlRow.column row)))
  | [], _ => rfl
  | p :: rest, hps => by
      have hp := Predicate.matches_eq_all h p hps.1
      have hrest := Predicate.allMatch_eq_all h rest hps.2
      rw [allMatch, hp, listComparisons, List.all_append]
      -- The terms behind one that does not hold are not looked at.
      cases p.comparisons.all (Comparison.holds (SqlRow.column row)) with
      | true => exact hrest
      | false => rfl

end

end

/-- A comparison of a column with a value that it can be compared with. -/
def Comparison.Suitable (x : Comparison) : Prop :=
  ∃ a : Attribute, a.column? = some x.column ∧ x.value.Suits a

mutual

theorem Predicate.suitable_comparisons : ∀ p : Predicate, p.Portable →
    ∀ x ∈ p.comparisons, x.Suitable
  | .all, _ => nofun
  | .compare a _ _, hp => by
      rcases Attribute.column?_of_selecting (Operand.Suits.mem_selecting hp) with ⟨column, hcolumn⟩
      intro x hx
      simp only [comparisons, hcolumn, Option.map_some, Option.toList_some,
        List.mem_singleton] at hx
      exact ⟨a, hx ▸ hcolumn, hx ▸ hp⟩
  | .and terms, hp => Predicate.suitable_listComparisons terms hp
  | .unsupported, hp => hp.elim

theorem Predicate.suitable_listComparisons : ∀ ps : List Predicate, AllPortable ps →
    ∀ x ∈ listComparisons ps, x.Suitable
  | [], _ => nofun
  | p :: rest, hps => by
      intro x hx
      rcases List.mem_append.1 hx with hx | hx
      · exact Predicate.suitable_comparisons p hps.1 x hx
      · exact Predicate.suitable_listComparisons rest hps.2 x hx

end

/-! ## The clause -/

namespace Clause

/-- A clause that is made of some comparisons and of conditions that always
    hold. -/
structure MadeOf (k : Clause) (xs : List Comparison) : Prop where
  printable : k ≠ .unequal
  possible : ClauseTerm.never ∉ k.toTerms
  comparisons : k.toTerms.filterMap ClauseTerm.comparison? = xs

theorem isNever_iff (k : Clause) : k.isNever = true ↔ ClauseTerm.never ∈ k.toTerms :=
  List.contains_iff_mem

/-- What vanishes from a conjunction are conditions that always hold. -/
theorem comparisons_filter (ks : List Clause) :
    ((ks.filter fun k => !k.isAlways).flatMap toTerms).filterMap ClauseTerm.comparison? =
      (ks.flatMap toTerms).filterMap ClauseTerm.comparison? := by
  induction ks with
  | nil => rfl
  | cons k rest ih =>
      rw [List.flatMap_cons, List.filterMap_append, ← ih]
      cases k with
      | always => rfl
      | unequal => rfl
      | terms ts => exact List.filterMap_append

/-- The comparisons of a conjunction are those of its terms, in their order. -/
theorem madeOf_conjunction {ks : List Clause} {xs : List Comparison}
    (hnever : ∀ k ∈ ks, ClauseTerm.never ∉ k.toTerms)
    (hxs : (ks.flatMap toTerms).filterMap ClauseTerm.comparison? = xs) :
    (conjunction ks).MadeOf xs := by
  have hany : ks.any isNever = false := by
    rw [List.any_eq_false]
    exact fun k hk hnot => hnever k hk ((isNever_iff k).1 hnot)
  rw [← comparisons_filter] at hxs
  unfold conjunction
  simp only [hany, Bool.false_eq_true, if_false]
  by_cases hempty : ((ks.filter fun k => !k.isAlways).isEmpty && !ks.isEmpty) = true
  · -- Nothing but conditions that always hold: one of them stays.
    rw [if_pos hempty]
    rw [Bool.and_eq_true, List.isEmpty_iff] at hempty
    rw [hempty.1] at hxs
    exact ⟨nofun, by decide, hxs⟩
  · rw [if_neg hempty]
    refine ⟨nofun, fun hmem => ?_, hxs⟩
    rcases List.mem_flatMap.1 hmem with ⟨k, hk, hmem⟩
    exact hnever k (List.mem_filter.1 hk).1 hmem

end Clause

mutual

/-- A predicate has a clause, which is made of its comparisons. -/
theorem Predicate.exists_clause : ∀ p : Predicate, p.Portable →
    ∃ k, p.clause = .ok k ∧ k.MadeOf p.comparisons
  | .all, _ => ⟨.always, rfl, nofun, by decide, rfl⟩
  | .compare a x v, hp => by
      rcases Attribute.column?_of_selecting (Operand.Suits.mem_selecting hp) with ⟨column, hcolumn⟩
      refine ⟨.terms [.compare column x v], ?_, nofun, ?_, ?_⟩
      · simp only [clause, hcolumn]
      · rw [Clause.toTerms, List.mem_singleton]
        exact nofun
      · simp only [comparisons, hcolumn, Option.map_some, Option.toList_some]
        rfl
  | .and terms, hp => by
      rcases Predicate.exists_clauses terms hp with ⟨ks, hks, hnever, hxs⟩
      refine ⟨.conjunction ks, ?_, Clause.madeOf_conjunction hnever hxs⟩
      simp only [clause, hks, bind, Except.bind]
  | .unsupported, hp => hp.elim

/-- So have some predicates. -/
theorem Predicate.exists_clauses : ∀ ps : List Predicate, AllPortable ps →
    ∃ ks, clauses ps = .ok ks ∧ (∀ k ∈ ks, ClauseTerm.never ∉ k.toTerms) ∧
      (ks.flatMap Clause.toTerms).filterMap ClauseTerm.comparison? = listComparisons ps
  | [], _ => ⟨[], rfl, nofun, rfl⟩
  | p :: rest, hps => by
      rcases Predicate.exists_clause p hps.1 with ⟨k, hk, hmade⟩
      rcases Predicate.exists_clauses rest hps.2 with ⟨ks, hks, hnever, hxs⟩
      refine ⟨k :: ks, ?_, ?_, ?_⟩
      · simp only [clauses, hk, hks, bind, Except.bind]
      · intro k' hk'
        rcases List.mem_cons.1 hk' with rfl | hk'
        · exact hmade.possible
        · exact hnever k' hk'
      · rw [List.flatMap_cons, List.filterMap_append, hmade.comparisons, hxs, listComparisons]

end

/-! ## The conditions -/

/-- Numbered terms hold just if their comparisons do. -/
theorem all_numbered (row : String → SqlValue) (now : Timestamp) : ∀ {ts : List ClauseTerm}
    (before : List ClauseTerm), ClauseTerm.never ∉ ts →
      (numbered before ts).all (fun k => k.holds row now) =
        (ts.filterMap ClauseTerm.comparison?).all (Comparison.holds row) := by
  intro ts
  induction ts with
  | nil => exact fun _ _ => rfl
  | cons t rest ih =>
      intro before hnever
      have hrest : ClauseTerm.never ∉ rest := fun hmem => hnever (List.mem_cons_of_mem t hmem)
      cases t with
      | always =>
          rw [numbered, List.all_cons, ih _ hrest]
          rfl
      | never => exact absurd List.mem_cons_self hnever
      | compare column x v =>
          rw [numbered, List.all_cons, ih _ hrest]
          rfl

/-- A clause holds of a row just if its comparisons do. -/
theorem Clause.all_conditions {k : Clause} {xs : List Comparison} (h : k.MadeOf xs)
    (row : String → SqlValue) (now : Timestamp) :
    k.conditions.all (fun x => x.holds row now) = xs.all (Comparison.holds row) := by
  rw [conditions, all_numbered row now [] h.possible, h.comparisons]

end Outreach
