import Outreach.Proofs.Customer.Validation
import Outreach.Proofs.Number.Order
import Outreach.Rule.Compile

/-!
# What Rules Mean

A rule on spend or visits compares two numbers by their exact values. A rule on
the last visit compares the instant of the visit with the reference time some
days ago, the operator being read backwards in time.

A list of rules is read from left to right. Each rule adds to the current group
or opens a new one, and all groups have to hold. Compiling a list gives a
predicate with just the outcome of this reading, which is that every rule holds:
neither the order of the rules nor their logic makes a difference.

## Main definitions

* `Rule.Operator.relates`: An operator on any ordered values.
* `Rule.Parses`: A rule whose value can be read.
* `Rule.holds`: Whether a rule holds of a customer.
* `Rule.readOn`, `Rule.sequential`: Reading a list of rules.

## Theorems

* `Rule.matches_compileOne`: The comparison of one rule holds as the rule does.
* `Rule.matches_assemble`: The groups of a predicate are those of the reading.
* `Rule.exists_compile_iff`: A list is compiled just if all its values can be read.
* `Rule.matches_compile`: The predicate of a list means what the list means.
-/

namespace Outreach

/-! ## Customers -/

/-- Where every item has a result, the results are those of the items. -/
theorem mapM_eq_map {ε α β : Type} {f : α → Except ε β} {g : α → β} {as : List α}
    (h : ∀ a ∈ as, f a = .ok (g a)) : as.mapM f = .ok (as.map g) := by
  induction as with
  | nil => rfl
  | cons a as ih =>
      have has := ih fun b hb => h b (List.mem_cons_of_mem a hb)
      rw [List.mapM_cons, h a List.mem_cons_self, has]
      rfl

/-- Every result is that of an item. -/
theorem exists_of_mem_mapM {ε α β : Type} {f : α → Except ε β} {as : List α} :
    ∀ {bs : List β}, as.mapM f = .ok bs → ∀ b ∈ bs, ∃ a ∈ as, f a = .ok b := by
  induction as with
  | nil =>
      intro bs h b hb
      cases h
      cases hb
  | cons a as ih =>
      intro bs h b hb
      rw [List.mapM_cons] at h
      cases ha : f a with
      | error e =>
          rw [ha] at h
          cases h
      | ok x =>
          cases has : as.mapM f with
          | error e =>
              rw [ha, has] at h
              cases h
          | ok xs =>
              rw [ha, has] at h
              cases h
              rcases List.mem_cons.1 hb with rfl | hb
              · exact ⟨a, List.mem_cons_self, ha⟩
              · rcases ih has b hb with ⟨a', ha', hfa'⟩
                exact ⟨a', List.mem_cons_of_mem a ha', hfa'⟩

/-- The last visit of a customer is aware from the beginning. -/
theorem Customer.isAware_of_validated {draft c : Customer} (h : draft.validated = .ok c) :
    c.lastVisit.isAware = true :=
  isAware_of_inUtc (validated_eq_ok_iff.1 h).lastVisit

/-- It stays so with every order. -/
theorem Customer.isAware_recordOrder {c : Customer} (h : c.lastVisit.isAware = true)
    (amount : Double) (time : Timestamp) :
    (c.recordOrder amount time).1.lastVisit.isAware = true := by
  rw [recordOrder]
  cases ht : inUtc time with
  | ok t => exact isAware_of_inUtc ht
  | error e => exact h

namespace Rule

/-! ## One rule -/

/-- How an operator relates two values of an order. -/
def Operator.relates {α : Type} [LinearOrder α] : Operator → α → α → Bool
  | .greater, a, b => decide (b < a)
  | .less, a, b => decide (a < b)
  | .greaterEqual, a, b => decide (b ≤ a)
  | .lessEqual, a, b => decide (a ≤ b)
  | .equal, a, b => decide (a = b)

/-- An operator read backwards in time: more days ago is earlier. -/
def Operator.backwards : Operator → Operator
  | .greater => .less
  | .less => .greater
  | .greaterEqual => .lessEqual
  | .lessEqual => .greaterEqual
  | .equal => .equal

/-- A rule whose value can be read: a finite number, or a count of days that
    leads back to a date of the calendar. -/
def Parses (now : Timestamp) (r : Rule) : Prop :=
  match r.field with
  | .lastVisit => ∃ t, reference r.value now = .ok t
  | _ => ∃ x, number r.value = .ok x

theorem exists_ok_iff {ε α : Type} {x : Except ε α} : x.isOk = true ↔ ∃ a, x = .ok a := by
  cases x <;> simp [Except.isOk, Except.toBool]

instance (now : Timestamp) : DecidablePred (Parses now)
  | ⟨.lastVisit, _, value, _⟩ => decidable_of_iff (reference value now).isOk exists_ok_iff
  | ⟨.totalSpends, _, value, _⟩ => decidable_of_iff (number value).isOk exists_ok_iff
  | ⟨.visits, _, value, _⟩ => decidable_of_iff (number value).isOk exists_ok_iff

/-- The reference of a rule on the last visit is the clock set back by its count of days. -/
theorem reference_eq_ok_iff {value : Text} {now t : Timestamp} :
    reference value now = .ok t ↔
      ∃ days : Nat, dayCount value = .ok days ∧ now.minusDays? days = some t := by
  rw [reference]
  cases dayCount value with
  | error problem =>
      refine iff_of_false nofun ?_
      rintro ⟨days, hdays, -⟩
      cases hdays
  | ok days =>
      simp only [bind, Except.bind, Except.ok.injEq, exists_eq_left']
      cases now.minusDays? days with
      | none => exact iff_of_false nofun nofun
      | some before => rw [Except.ok.injEq, Option.some.injEq]

/-- The reference of a rule on the last visit lies its count of days before
    the time at which it is read. -/
theorem instant_reference {value : Text} {now t : Timestamp} (h : reference value now = .ok t) :
    ∃ days : Nat, dayCount value = .ok days ∧ t.instant = now.instant - days * dayMicros ∧
      t.ahead = now.ahead := by
  rcases reference_eq_ok_iff.1 h with ⟨days, hdays, hback⟩
  exact ⟨days, hdays, Timestamp.instant_minusDays? hback⟩

/-- Whether two numbers stand as an operator says. A number without a value
    stands to none. -/
def Operator.relatesValues (o : Operator) (a b : Option (WithBotTop ℚ)) : Bool :=
  (a.bind fun a => b.map fun b => o.relates a b).getD false

/-- Whether a rule holds of a customer. -/
def holds (now : Timestamp) (c : Customer) (r : Rule) : Bool :=
  match r.field with
  | .totalSpends =>
    match number r.value with
    | .ok x => r.operator.relatesValues c.totalSpends.value? x.value?
    | .error _ => false
  | .visits =>
    match number r.value with
    | .ok x => r.operator.relatesValues (some (WithBotTop.coe (c.visits : ℚ))) x.value?
    | .error _ => false
  | .lastVisit =>
    match dayCount r.value with
    | .ok days =>
      r.operator.backwards.relates c.lastVisit.instant (now.instant - days * dayMicros)
    | .error _ => false

theorem accepts_direct {α : Type} [LinearOrder α] (o : Operator) (a b : α) :
    o.direct.accepts (cmp a b) = o.relates a b := by
  rcases lt_trichotomy a b with hlt | heq | hgt
  · rw [(cmp_eq_lt_iff a b).2 hlt]
    cases o <;>
      simp [Operator.direct, Comparator.accepts, Operator.relates, hlt, hlt.le, hlt.ne, hlt.not_gt]
  · rw [(cmp_eq_eq_iff a b).2 heq]
    cases o <;> simp [Operator.direct, Comparator.accepts, Operator.relates, heq]
  · rw [(cmp_eq_gt_iff a b).2 hgt]
    cases o <;>
      simp [Operator.direct, Comparator.accepts, Operator.relates, hgt, hgt.le, hgt.ne', hgt.not_gt]

/-- The inverted comparison is the comparison of the operator read backwards. -/
theorem inverted_eq (o : Operator) : o.inverted = o.backwards.direct := by
  cases o <;> rfl

/-- A comparison of values decides what the operator says of them. -/
theorem decide_direct (o : Operator) (a b : Option (WithBotTop ℚ)) :
    o.direct.decide (.ofOrder? (a.bind fun a => b.map fun b => cmp a b)) =
      .ok (o.relatesValues a b) := by
  cases a with
  | none => rfl
  | some a =>
      cases b with
      | none => rfl
      | some b => exact congrArg Except.ok (accepts_direct o a b)

/-- The comparison of one rule holds as the rule does. -/
theorem matches_compileOne {now : Timestamp} {c : Customer} {r : Rule}
    (hnow : now.isAware = true) (hvisit : c.lastVisit.isAware = true) (h : r.Parses now) :
    ∃ p, compileOne now r = .ok p ∧ p.matches c = .ok (r.holds now c) := by
  rcases r with ⟨field, operator, value, logic⟩
  cases field with
  | totalSpends =>
      rcases h with ⟨x, hx⟩
      change number value = .ok x at hx
      refine ⟨.compare .totalSpends operator.direct (.double x), ?_, ?_⟩
      · simp only [compileOne, hx, blame, bind, Except.bind, Field.attribute]
      · simp only [Predicate.matches, Customer.fact?, Fact.standing, holds, hx,
          Double.compare?_eq, decide_direct]
  | visits =>
      rcases h with ⟨x, hx⟩
      change number value = .ok x at hx
      refine ⟨.compare .visits operator.direct (.double x), ?_, ?_⟩
      · simp only [compileOne, hx, blame, bind, Except.bind, Field.attribute]
      · simp only [Predicate.matches, Customer.fact?, Fact.standing, holds, hx,
          Double.compareInt?_eq]
        exact decide_direct operator (some _) x.value?
  | lastVisit =>
      rcases h with ⟨t, ht⟩
      change reference value now = .ok t at ht
      rcases instant_reference ht with ⟨days, hdays, hinstant, hahead⟩
      -- Both clocks are aware, so the instants decide.
      have haware : c.lastVisit.isAware = t.isAware := by
        rw [hvisit, Timestamp.isAware, hahead]
        exact hnow.symm
      refine ⟨.compare .lastVisit operator.inverted (.time t), ?_, ?_⟩
      · simp only [compileOne, ht, blame, bind, Except.bind, Field.attribute]
      · simp only [Predicate.matches, Customer.fact?, Fact.standing, holds, hdays,
          Timestamp.compare?, if_pos haware, Comparator.decide]
        rw [inverted_eq, hinstant, ← cmp_eq_compare, accepts_direct]

/-! ## A list of rules -/

/-- Read a rule after others: it opens a group or joins the current one, which
    stands in front. The first rule opens a group whatever its logic. -/
def readOn : List Bool → Logic × Bool → List Bool
  | [], (_, holds) => [holds]
  | current :: closed, (.and, holds) => (current && holds) :: closed
  | current :: closed, (.or, holds) => holds :: current :: closed

/-- Whether a list of rules, read from left to right, holds of a customer: all
    groups have to. -/
def sequential (now : Timestamp) (c : Customer) (rules : List Rule) : Bool :=
  ((rules.map fun r => (r.logic, r.holds now c)).foldl readOn []).all id

theorem all_readOn (groups : List Bool) (x : Logic × Bool) :
    (readOn groups x).all id = (groups.all id && x.2) := by
  rcases x with ⟨logic, holds⟩
  cases groups with
  | nil => simp only [readOn, List.all_cons, List.all_nil, id, Bool.and_true, Bool.true_and]
  | cons current closed =>
      cases logic with
      | and =>
          simp only [readOn, List.all_cons, id]
          rw [Bool.and_assoc, Bool.and_comm holds, Bool.and_assoc]
      | or =>
          simp only [readOn, List.all_cons, id]
          exact Bool.and_comm holds _

theorem all_foldl_readOn (rest : List (Logic × Bool)) : ∀ groups : List Bool,
    (rest.foldl readOn groups).all id = (groups.all id && rest.all Prod.snd) := by
  induction rest with
  | nil =>
      intro groups
      exact (Bool.and_true _).symm
  | cons x rest ih =>
      intro groups
      rw [List.foldl_cons, ih, all_readOn, List.all_cons, Bool.and_assoc]

/-- All groups hold just if all rules do. -/
theorem sequential_eq_all (now : Timestamp) (c : Customer) (rules : List Rule) :
    sequential now c rules = rules.all (holds now c) := by
  rw [sequential, all_foldl_readOn, List.all_nil, Bool.true_and, List.all_map]
  rfl

section

variable {c : Customer} {f : Predicate → Bool}

theorem allMatch_map {α : Type} {g : α → Predicate} {truth : α → Bool} {as : List α}
    (h : ∀ a ∈ as, (g a).matches c = .ok (truth a)) :
    Predicate.allMatch c (as.map g) = .ok (as.all truth) := by
  induction as with
  | nil => rfl
  | cons a as ih =>
      have ha := h a List.mem_cons_self
      have has := ih fun b hb => h b (List.mem_cons_of_mem a hb)
      rw [List.map_cons, Predicate.allMatch, ha, List.all_cons]
      cases htruth : truth a with
      | false => rfl
      | true => exact has

theorem matches_collapse {group : List Predicate} (h : ∀ p ∈ group, p.matches c = .ok (f p)) :
    (collapse group).matches c = .ok (group.all f) := by
  by_cases hone : ∃ p, group = [p]
  -- A group of one is its comparison.
  · rcases hone with ⟨p, rfl⟩
    rw [collapse, h p List.mem_cons_self, List.all_cons, List.all_nil, Bool.and_true]
  · have hand : collapse group = .and group := by
      unfold collapse
      split
      · exact absurd ⟨_, rfl⟩ hone
      · rfl
    have hall := allMatch_map (g := id) h
    rw [List.map_id] at hall
    rw [hand, Predicate.matches, hall]

/-- The groups hold what the open group and the rest do. -/
theorem mem_of_groups {group : List Predicate} {p : Predicate} (hp : p ∈ group)
    (rest : List (Logic × Predicate)) : ∀ current : List Predicate,
    group ∈ groups current rest → p ∈ current ∨ p ∈ rest.map Prod.snd := by
  induction rest with
  | nil =>
      intro current hgroup
      rw [groups, List.mem_singleton] at hgroup
      rw [hgroup, List.mem_reverse] at hp
      exact .inl hp
  | cons x rest ih =>
      intro current hgroup
      rcases x with ⟨logic, q⟩
      rw [List.map_cons, List.mem_cons]
      cases logic with
      | and =>
          rcases ih _ hgroup with hmem | hmem
          -- The open group has grown by the comparison.
          · rcases List.mem_cons.1 hmem with heq | hmem
            · exact .inr (.inl heq)
            · exact .inl hmem
          · exact .inr (.inr hmem)
      | or =>
          rw [groups, List.mem_cons] at hgroup
          rcases hgroup with hfirst | hgroup
          · rw [hfirst, List.mem_reverse] at hp
            exact .inl hp
          · rcases ih _ hgroup with hmem | hmem
            · exact .inr (.inl (List.mem_singleton.1 hmem))
            · exact .inr (.inr hmem)

/-- The groups stand in the order of the list, those of the reading the other
    way round. -/
theorem foldl_readOn_groups (rest : List (Logic × Predicate)) :
    ∀ (current : List Predicate) (closed : List Bool),
      (rest.map (Prod.map id f)).foldl readOn (current.all f :: closed) =
        ((groups current rest).map fun group => group.all f).reverse ++ closed := by
  induction rest with
  | nil =>
      intro current closed
      rw [groups, List.map_singleton, List.all_reverse]
      rfl
  | cons x rest ih =>
      intro current closed
      rcases x with ⟨logic, p⟩
      rw [List.map_cons, List.foldl_cons]
      cases logic with
      | and =>
          rw [groups, ← ih (p :: current) closed, List.all_cons, Bool.and_comm (f p)]
          rfl
      | or =>
          -- The open group is closed, and the comparison opens the next one.
          have hopen : f p = [p].all f := by
            rw [List.all_cons, List.all_nil, Bool.and_true]
          rw [groups, List.map_cons, List.reverse_cons, List.append_assoc, List.singleton_append,
            List.all_reverse, ← ih [p] (current.all f :: closed), ← hopen]
          rfl

/-- The groups of a predicate are those of the reading. -/
theorem matches_assemble {terms : List (Logic × Predicate)}
    (h : ∀ x ∈ terms, x.2.matches c = .ok (f x.2)) :
    (assemble terms).matches c =
      .ok (((terms.map (Prod.map id f)).foldl readOn []).all id) := by
  cases terms with
  | nil => rfl
  | cons x rest =>
      rcases x with ⟨logic, p⟩
      have hp : p.matches c = .ok (f p) := h (logic, p) List.mem_cons_self
      have hopen : f p = [p].all f := by
        rw [List.all_cons, List.all_nil, Bool.and_true]
      rw [List.map_cons, List.foldl_cons]
      change _ = Except.ok (((rest.map (Prod.map id f)).foldl readOn [f p]).all id)
      rw [hopen, foldl_readOn_groups, List.append_nil, List.all_reverse, List.all_map]
      -- A single rule is its comparison; otherwise the first one opens the groups.
      cases rest with
      | nil =>
          rw [assemble, hp, hopen]
          exact congrArg Except.ok (Bool.and_true _).symm
      | cons y rest =>
          rw [assemble, Predicate.matches]
          · have hgroups : ∀ group ∈ groups [p] (y :: rest),
                (collapse group).matches c = .ok (group.all f) := by
              intro group hgroup
              refine matches_collapse fun q hq => ?_
              rcases mem_of_groups hq _ _ hgroup with hmem | hmem
              · rw [List.mem_singleton.1 hmem]
                exact hp
              · rcases List.mem_map.1 hmem with ⟨z, hz, rfl⟩
                exact h z (List.mem_cons_of_mem _ hz)
            exact allMatch_map hgroups
          · exact List.cons_ne_nil y rest

end

/-- What a rule compares with what, whatever its logic. -/
def condition (r : Rule) : Field × Operator × Text :=
  (r.field, r.operator, r.value)

theorem parses_of_condition {now : Timestamp} {r s : Rule} (h : r.condition = s.condition)
    (hs : s.Parses now) : r.Parses now := by
  rcases r with ⟨field, operator, value, logic⟩
  rcases s with ⟨field', operator', value', logic'⟩
  simp only [condition, Prod.mk.injEq] at h
  rcases h with ⟨rfl, rfl, rfl⟩
  exact hs

theorem holds_of_condition {now : Timestamp} {c : Customer} {r s : Rule}
    (h : r.condition = s.condition) : r.holds now c = s.holds now c := by
  rcases r with ⟨field, operator, value, logic⟩
  rcases s with ⟨field', operator', value', logic'⟩
  simp only [condition, Prod.mk.injEq] at h
  rcases h with ⟨rfl, rfl, rfl⟩
  rfl

/-- What depends on conditions alone passes on to rules of the same conditions. -/
theorem forall_of_conditions {P : Rule → Prop} {rules others : List Rule}
    (hP : ∀ r s : Rule, r.condition = s.condition → P s → P r)
    (h : others.map condition ⊆ rules.map condition) (hrules : ∀ s ∈ rules, P s) :
    ∀ r ∈ others, P r := by
  intro r hr
  rcases List.mem_map.1 (h (List.mem_map_of_mem hr)) with ⟨s, hs, heq⟩
  exact hP r s heq.symm (hrules s hs)

/-- The order of rules and their logic make no difference to their reading. -/
theorem sequential_of_perm {now : Timestamp} {c : Customer} {rules others : List Rule}
    (h : (others.map condition).Perm (rules.map condition)) :
    sequential now c others = sequential now c rules := by
  have hP : ∀ r s : Rule, r.condition = s.condition →
      s.holds now c = true → r.holds now c = true := by
    intro r s heq hs
    rw [holds_of_condition heq]
    exact hs
  rw [sequential_eq_all, sequential_eq_all, Bool.eq_iff_iff, List.all_eq_true, List.all_eq_true]
  exact ⟨forall_of_conditions hP h.symm.subset, forall_of_conditions hP h.subset⟩

/-! ## Compiling a list -/

/-- Whether a customer is seen to satisfy a predicate. -/
def satisfied (c : Customer) (p : Predicate) : Bool :=
  match p.matches c with
  | .ok holds => holds
  | .error _ => false

/-- The comparison of a rule; there is one if its value can be read. -/
def comparison (now : Timestamp) (r : Rule) : Predicate :=
  match compileOne now r with
  | .ok p => p
  | .error _ => .all

/-- There is a comparison for just the rules whose value can be read. -/
theorem exists_compileOne_iff {now : Timestamp} {r : Rule} :
    (∃ p, compileOne now r = .ok p) ↔ r.Parses now := by
  have hblame : ∀ {α : Type} (x : Except ValueProblem α) (f : α → Predicate),
      (∃ p, (blame (.text r.value) x >>= fun a => .ok (f a)) = Except.ok p) ↔ ∃ a, x = .ok a := by
    intro α x f
    cases x with
    | error problem =>
        refine iff_of_false ?_ ?_ <;> rintro ⟨a, ha⟩ <;> cases ha
    | ok a => exact iff_of_true ⟨f a, rfl⟩ ⟨a, rfl⟩
  rcases r with ⟨field, operator, value, logic⟩
  cases field with
  | lastVisit => exact hblame _ fun t => .compare .lastVisit operator.inverted (.time t)
  | totalSpends => exact hblame _ fun x => .compare .totalSpends operator.direct (.double x)
  | visits => exact hblame _ fun x => .compare .visits operator.direct (.double x)

theorem exists_mapM_iff {ε α β : Type} {f : α → Except ε β} (as : List α) :
    (∃ bs, as.mapM f = .ok bs) ↔ ∀ a ∈ as, ∃ b, f a = .ok b := by
  induction as with
  | nil => exact iff_of_true ⟨[], rfl⟩ fun a ha => absurd ha List.not_mem_nil
  | cons a as ih =>
      rw [List.forall_mem_cons, ← ih, List.mapM_cons]
      cases ha : f a with
      | error e =>
          refine iff_of_false ?_ ?_
          · rintro ⟨bs, hbs⟩
            cases hbs
          · rintro ⟨⟨b, hb⟩, -⟩
            cases hb
      | ok b =>
          cases has : as.mapM f with
          | error e =>
              refine iff_of_false ?_ ?_
              · rintro ⟨bs, hbs⟩
                cases hbs
              · rintro ⟨-, bs, hbs⟩
                cases hbs
          | ok bs => exact iff_of_true ⟨b :: bs, rfl⟩ ⟨⟨b, rfl⟩, bs, rfl⟩

/-- A list of rules is compiled just if all values can be read. -/
theorem exists_compile_iff {now : Timestamp} {rules : List Rule} :
    (∃ p, compile rules now = .ok p) ↔ ∀ r ∈ rules, r.Parses now := by
  have hmapM := exists_mapM_iff (f := compileOne now) rules
  simp only [exists_compileOne_iff] at hmapM
  rw [← hmapM, compile]
  cases rules.mapM (compileOne now) with
  | error fault =>
      refine iff_of_false ?_ ?_ <;> rintro ⟨a, ha⟩ <;> cases ha
  | ok comparisons => exact iff_of_true ⟨_, rfl⟩ ⟨_, rfl⟩

/-- The predicate of a list of rules is satisfied just as the list reads. -/
theorem exists_compile {now : Timestamp} {c : Customer} {rules : List Rule}
    (hnow : now.isAware = true) (hvisit : c.lastVisit.isAware = true)
    (h : ∀ r ∈ rules, r.Parses now) :
    ∃ p, compile rules now = .ok p ∧ p.matches c = .ok (sequential now c rules) := by
  have hone : ∀ r ∈ rules, compileOne now r = .ok (comparison now r) ∧
      (comparison now r).matches c = .ok (r.holds now c) := by
    intro r hr
    rcases matches_compileOne hnow hvisit (h r hr) with ⟨p, hp, hmatches⟩
    have heq : comparison now r = p := by
      rw [comparison, hp]
    rw [heq]
    exact ⟨hp, hmatches⟩
  refine ⟨assemble (rules.map fun r => (r.logic, comparison now r)), ?_, ?_⟩
  · rw [compile, mapM_eq_map fun r hr => (hone r hr).1]
    change Except.ok _ = Except.ok _
    rw [List.zip_map']
  · have hsatisfied : ∀ r ∈ rules, satisfied c (comparison now r) = r.holds now c := by
      intro r hr
      rw [satisfied, (hone r hr).2]
    have hterms : ∀ x ∈ rules.map fun r => (r.logic, comparison now r),
        x.2.matches c = .ok (satisfied c x.2) := by
      intro x hx
      rcases List.mem_map.1 hx with ⟨r, hr, rfl⟩
      rw [hsatisfied r hr]
      exact (hone r hr).2
    rw [matches_assemble hterms, sequential, List.map_map]
    congr 3
    -- Rule by rule, the comparison decides what the rule says.
    refine List.map_congr_left fun r hr => ?_
    rw [Function.comp_apply, Prod.map_apply, hsatisfied r hr, id]

end Rule

end Outreach
