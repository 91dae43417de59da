import Mathlib.Data.List.Infix
import Outreach.Delivery.Message
import Outreach.Number.Total

/-!
# Substitution Is Splitting and Joining

Whatever text is searched for, a scan from left to right cuts what it reads into pieces in
which that text does not occur, and joins them with what is put in. What is put in may hold
the text that is searched for: it is no piece and is not looked at.

A text that overlaps with itself can be cut out in several ways, of which the scan
finds one. A text without borders, of which no proper end is a beginning, cannot overlap with
itself. Between pieces in which it does not occur it therefore occurs just where the pieces
are joined, so every text has one decomposition, and to substitute is to join the same pieces
with something else.

The placeholder for a name has no borders, so this is what rendering a message does.

## Main definitions

* `Text.Contains`: A text in which another one occurs.
* `Text.occurrences`: At how many places it does.
* `Text.Unbordered`: A text that does not overlap with itself.
* `Text.Pieces`: A decomposition of a text.

## Theorems

* `Text.length_le_of_append_eq`: Behind a piece stands the first occurrence.
* `Text.exists_pieces_substitute`: The scan finds a decomposition and joins it.
* `Text.join_injective`: There is no other one.
* `Text.substitute_join`: What is joined by a text is joined by its substitute.
* `Text.occurrences_join`: The joints are the occurrences.
* `render_splits_and_joins`: All this for messages and names.
-/

namespace Outreach

namespace Text

/-- A text in which another one occurs. -/
def Contains (text target : Text) : Prop :=
  target.points <:+: text.points

/-- At how many places of a text another one stands. -/
def occurrences (text target : Text) : Nat :=
  text.points.tails.countP target.points.isPrefixOf

/-- A text that does not overlap with itself: no proper end of it is a beginning. -/
def Unbordered (target : Text) : Prop :=
  ∀ i < target.points.length, 0 < i → ¬target.points.drop i <+: target.points

instance (target : Text) : Decidable target.Unbordered :=
  inferInstanceAs (Decidable (∀ i < target.points.length, 0 < i →
    ¬target.points.drop i <+: target.points))

/-- A decomposition of a text into pieces in which another one does not occur. -/
structure Pieces (text target : Text) (pieces : List Text) : Prop where
  nonempty : pieces ≠ []
  free : ∀ p ∈ pieces, ¬p.Contains target
  joined : text = join target pieces

/-! ## The first occurrence -/

section

variable {target : List Point}

theorem afterHead?_eq_some_iff {head ps rest : List Point} :
    afterHead? head ps = some rest ↔ ps = head ++ rest := by
  induction head generalizing ps with
  | nil => rw [afterHead?, Option.some.injEq, List.nil_append]
  | cons h hs ih =>
      cases ps with
      | nil => simp only [afterHead?, reduceCtorEq, List.cons_append]
      | cons p ps =>
          rw [afterHead?, List.cons_append, List.cons.injEq]
          by_cases heq : h = p
          · rw [if_pos heq, ih]
            exact (and_iff_right heq.symm).symm
          · rw [if_neg heq]
            exact iff_of_false (Option.some_ne_none rest).symm fun hboth => heq hboth.1.symm

/-- An occurrence that begins in a piece would lie in it or overlap with the one behind. -/
theorem length_le_of_append_eq
    (hborder : ∀ i < target.length, 0 < i → ¬target.drop i <+: target)
    {p q rest tail : List Point} (hfree : ¬target <:+: p)
    (heq : p ++ (target ++ rest) = q ++ (target ++ tail)) : p.length ≤ q.length := by
  by_contra hlt
  rw [Nat.not_le] at hlt
  -- The piece goes on behind the beginning of the occurrence.
  rcases List.append_eq_append_iff.1 heq with ⟨gap, rfl, -⟩ | ⟨gap, rfl, hgap⟩
  · rw [List.length_append] at hlt
    omega
  have hpos : 0 < gap.length := by
    rw [List.length_append] at hlt
    omega
  rcases List.append_eq_append_iff.1 hgap with ⟨more, rfl, -⟩ | ⟨more, rfl, hmore⟩
  · exact hfree ⟨q, more, List.append_assoc q target more⟩
  · -- The occurrence reaches into the next one.
    by_cases hempty : more = []
    · subst hempty
      rw [List.append_nil] at hfree
      exact hfree (List.suffix_append q gap).isInfix
    · have hbeginning : more <+: gap ++ more := by
        have hbegins : gap ++ more <+: more ++ tail := hmore ▸ List.prefix_append _ _
        refine List.prefix_of_prefix_length_le (List.prefix_append _ _) hbegins ?_
        rw [List.length_append]
        omega
      refine hborder gap.length ?_ hpos ?_
      · have := List.length_pos_iff.2 hempty
        rw [List.length_append]
        omega
      · rwa [List.drop_left]

/-- A text that is not empty occurs in no piece that is. -/
theorem not_infix_nil (hne : target ≠ []) : ¬target <:+: [] := fun h =>
  hne (List.infix_nil.1 h)

/-! ## Counting -/

/-- Inside an occurrence no other one begins. -/
theorem countP_tails_overlap
    (hborder : ∀ i < target.length, 0 < i → ¬target.drop i <+: target) (rest : List Point) :
    ∀ {gap more : List Point}, gap ≠ [] → target = gap ++ more →
      (more ++ rest).tails.countP target.isPrefixOf = rest.tails.countP target.isPrefixOf := by
  intro gap more
  induction more generalizing gap with
  | nil => exact fun _ _ => rfl
  | cons c more ih =>
      intro hgap htarget
      have hhere : target.isPrefixOf (c :: (more ++ rest)) = false := by
        rw [Bool.eq_false_iff, ne_eq, List.isPrefixOf_iff_prefix]
        intro hbegins
        have hpos := List.length_pos_iff.2 hgap
        have hlength : target.length = gap.length + (more.length + 1) := by
          rw [htarget, List.length_append, List.length_cons]
        refine hborder gap.length (by omega) hpos ?_
        rw [htarget, List.drop_left]
        have hwhole : c :: more <+: c :: more ++ rest := List.prefix_append _ _
        refine List.prefix_of_prefix_length_le hwhole (htarget ▸ hbegins) ?_
        rw [List.length_append]
        omega
      have hstep := @ih (gap ++ [c]) (by simp) (by simp [htarget])
      rw [List.cons_append, List.tails_cons, List.countP_cons, hhere, hstep]
      rfl

/-- A piece adds no occurrence, and the joint behind it one. -/
theorem countP_tails_append (hne : target ≠ [])
    (hborder : ∀ i < target.length, 0 < i → ¬target.drop i <+: target) (rest : List Point) :
    ∀ {p : List Point}, ¬target <:+: p →
      (p ++ (target ++ rest)).tails.countP target.isPrefixOf =
        rest.tails.countP target.isPrefixOf + 1 := by
  intro p
  induction p with
  | nil =>
      intro _
      rw [List.nil_append]
      cases htarget : target with
      | nil => exact absurd htarget hne
      | cons h hs =>
          have hhere : (h :: hs).isPrefixOf (h :: (hs ++ rest)) = true :=
            List.isPrefixOf_iff_prefix.2 (List.prefix_append (h :: hs) rest)
          have hinside : (hs ++ rest).tails.countP (h :: hs).isPrefixOf =
              rest.tails.countP (h :: hs).isPrefixOf :=
            countP_tails_overlap (htarget ▸ hborder) rest (List.cons_ne_nil h []) rfl
          rw [List.cons_append, List.tails_cons, List.countP_cons, hhere, if_pos rfl, hinside]
  | cons c p ih =>
      intro hfree
      have hhere : target.isPrefixOf (c :: (p ++ (target ++ rest))) = false := by
        rw [Bool.eq_false_iff, ne_eq, List.isPrefixOf_iff_prefix]
        rintro ⟨tail, htail⟩
        have hfirst : c :: p ++ (target ++ rest) = [] ++ (target ++ tail) := htail.symm
        exact absurd (length_le_of_append_eq hborder hfree hfirst) (Nat.not_succ_le_zero _)
      rw [List.cons_append, List.tails_cons, List.countP_cons, hhere,
        ih fun hmem => hfree (List.infix_cons hmem)]
      rfl

/-- The last piece adds none. -/
theorem countP_tails_of_free {p : List Point} (hfree : ¬target <:+: p) :
    p.tails.countP target.isPrefixOf = 0 := by
  rw [List.countP_eq_zero]
  intro tail htail hbegins
  rw [List.isPrefixOf_iff_prefix] at hbegins
  exact hfree (hbegins.isInfix.trans ((List.mem_tails _ _).1 htail).isInfix)

end

/-! ## Pieces of a text -/

variable {text target value : Text} {pieces others : List Text}

theorem join_cons_cons (p q : Text) (rest : List Text) :
    (join target (p :: q :: rest)).points =
      p.points ++ (target.points ++ (join target (q :: rest)).points) :=
  List.append_assoc _ _ _

/-- A point before the first piece stands before what is joined. -/
theorem points_join_cons (between : Text) (c : Point) (ps : List Point) (rest : List Text) :
    (join between (⟨c :: ps⟩ :: rest)).points = c :: (join between (⟨ps⟩ :: rest)).points := by
  cases rest with
  | nil => rfl
  | cons q rest =>
      rw [join_cons_cons, join_cons_cons]
      rfl

/-- Nothing before the first joint is a joint at the beginning. -/
theorem points_join_empty (between : Text) {pieces : List Text} (hpieces : pieces ≠ []) :
    (join between (empty :: pieces)).points = between.points ++ (join between pieces).points := by
  cases pieces with
  | nil => exact absurd rfl hpieces
  | cons q rest => exact join_cons_cons empty q rest

/-- The scan cuts a text into pieces and joins them with what is put in, whether or not the
    text that it searches for overlaps with itself. -/
theorem exists_pieces_substitute (hne : target.points ≠ []) (text value : Text) :
    ∃ pieces, text.Pieces target pieces ∧ text.substitute target value = join value pieces := by
  rcases target with ⟨_ | ⟨h, hs⟩⟩
  · exact absurd rfl hne
  have hscan : ∀ ps : List Point, ∃ pieces, Pieces ⟨ps⟩ ⟨h :: hs⟩ pieces ∧
      substituteFrom h hs value.points ps = (join value pieces).points := by
    intro ps
    fun_induction substituteFrom h hs value.points ps with
    | case1 =>
        refine ⟨[empty], ⟨List.cons_ne_nil _ _, fun p hp => ?_, rfl⟩, rfl⟩
        rw [List.mem_singleton.1 hp]
        exact not_infix_nil hne
    | case2 c ps tail hfound ih =>
        rcases ih with ⟨pieces, hpieces, hjoin⟩
        refine ⟨empty :: pieces, ⟨List.cons_ne_nil _ _, fun p hp => ?_, ?_⟩, ?_⟩
        · rcases List.mem_cons.1 hp with rfl | hp
          · exact not_infix_nil hne
          · exact hpieces.free p hp
        · refine congrArg Text.mk (Eq.trans ?_ (points_join_empty _ hpieces.nonempty).symm)
          rw [← hpieces.joined]
          exact afterHead?_eq_some_iff.1 hfound
        · rw [points_join_empty _ hpieces.nonempty, hjoin]
    | case3 c ps hnone ih =>
        rcases ih with ⟨_ | ⟨⟨p⟩, rest⟩, hpieces, hjoin⟩
        · exact absurd rfl hpieces.nonempty
        have hpoints : c :: ps = (join ⟨h :: hs⟩ (⟨c :: p⟩ :: rest)).points := by
          rw [points_join_cons, ← hpieces.joined]
        refine ⟨⟨c :: p⟩ :: rest, ⟨List.cons_ne_nil _ _, fun q hq => ?_, congrArg Text.mk hpoints⟩,
          ?_⟩
        · rcases List.mem_cons.1 hq with rfl | hq
          · intro hmem
            rcases List.infix_cons_iff.1 hmem with hbegins | hlater
            -- An occurrence at the beginning would have been found.
            · have hprefix : c :: p <+: c :: ps := by
                rw [hpoints]
                cases rest with
                | nil => exact List.prefix_refl _
                | cons q rest => exact ⟨_, (join_cons_cons _ _ _).symm⟩
              rcases hbegins.trans hprefix with ⟨tail, htail⟩
              cases hnone.symm.trans (afterHead?_eq_some_iff.2 htail.symm)
            · exact hpieces.free _ List.mem_cons_self hlater
          · exact hpieces.free q (List.mem_cons_of_mem _ hq)
        · rw [points_join_cons, hjoin]
  rcases hscan text.points with ⟨pieces, hpieces, hjoin⟩
  exact ⟨pieces, hpieces, congrArg Text.mk hjoin⟩

/-- Every text has a decomposition. -/
theorem exists_pieces (hne : target.points ≠ []) (text : Text) :
    ∃ pieces, text.Pieces target pieces :=
  (exists_pieces_substitute hne text empty).imp fun _ h => h.1

/-- A decomposition of more than one piece begins with what stands before the first
    occurrence. -/
theorem length_le_of_join_eq (hborder : target.Unbordered) {p p' q : Text} {rest rest' : List Text}
    (hfree : ¬p.Contains target)
    (heq : join target (p :: q :: rest) = join target (p' :: rest')) (hrest' : rest' ≠ []) :
    p.length ≤ p'.length := by
  cases rest' with
  | nil => exact absurd rfl hrest'
  | cons q' rest' =>
      have hpoints := congrArg Text.points heq
      rw [join_cons_cons, join_cons_cons] at hpoints
      exact length_le_of_append_eq hborder hfree hpoints

/-- There is no other one. -/
theorem join_injective (hborder : target.Unbordered) : ∀ {pieces others : List Text},
    pieces ≠ [] → others ≠ [] → (∀ p ∈ pieces, ¬p.Contains target) →
      (∀ p ∈ others, ¬p.Contains target) → join target pieces = join target others →
        pieces = others
  | [], _, hpieces, _, _, _, _ => absurd rfl hpieces
  | _, [], _, hothers, _, _, _ => absurd rfl hothers
  | [p], [p'], _, _, _, _, heq => congrArg (fun t : Text => [t]) heq
  | [p], p' :: q' :: rest', _, _, hfree, _, heq => by
      refine absurd ⟨p'.points, (join target (q' :: rest')).points, ?_⟩ (hfree p List.mem_cons_self)
      rw [List.append_assoc, ← join_cons_cons, ← heq]
      rfl
  | p :: q :: rest, [p'], _, _, _, hfree', heq => by
      refine absurd ⟨p.points, (join target (q :: rest)).points, ?_⟩ (hfree' p' List.mem_cons_self)
      rw [List.append_assoc, ← join_cons_cons, heq]
      rfl
  | p :: q :: rest, p' :: q' :: rest', _, _, hfree, hfree', heq => by
      have hle := length_le_of_join_eq hborder (hfree p List.mem_cons_self) heq
        (List.cons_ne_nil q' rest')
      have hge := length_le_of_join_eq hborder (hfree' p' List.mem_cons_self) heq.symm
        (List.cons_ne_nil q rest)
      have hpoints := congrArg Text.points heq
      rw [join_cons_cons, join_cons_cons] at hpoints
      rcases List.append_inj hpoints (Nat.le_antisymm hle hge) with ⟨hp, htail⟩
      have hjoined : join target (q :: rest) = join target (q' :: rest') :=
        congrArg Text.mk (List.append_cancel_left htail)
      have hmore := join_injective hborder (List.cons_ne_nil _ _) (List.cons_ne_nil _ _)
        (fun r hr => hfree r (List.mem_cons_of_mem p hr))
        (fun r hr => hfree' r (List.mem_cons_of_mem p' hr)) hjoined
      rw [hmore, show p = p' from congrArg Text.mk hp]

/-- What is joined by a text is joined by its substitute: the scan has no other pieces to join. -/
theorem substitute_join (hne : target.points ≠ []) (hborder : target.Unbordered)
    {pieces : List Text} (hfree : ∀ p ∈ pieces, ¬p.Contains target) :
    (join target pieces).substitute target value = join value pieces := by
  by_cases hpieces : pieces = []
  · rcases target with ⟨_ | ⟨h, hs⟩⟩
    · exact absurd rfl hne
    · have hnothing : substituteFrom h hs value.points [] = [] := by rw [substituteFrom]
      rw [hpieces]
      exact congrArg Text.mk hnothing
  · rcases exists_pieces_substitute hne (join target pieces) value with ⟨others, hothers, hjoin⟩
    rw [hjoin, join_injective hborder hpieces hothers.nonempty hfree hothers.free hothers.joined]

/-- The joints are the occurrences. -/
theorem occurrences_join (hne : target.points ≠ []) (hborder : target.Unbordered) :
    ∀ {pieces : List Text}, pieces ≠ [] → (∀ p ∈ pieces, ¬p.Contains target) →
      (join target pieces).occurrences target + 1 = pieces.length
  | [], hpieces, _ => absurd rfl hpieces
  | [p], _, hfree => congrArg (· + 1) (countP_tails_of_free (hfree p List.mem_cons_self))
  | p :: q :: rest, _, hfree => by
      have hrest := occurrences_join hne hborder (List.cons_ne_nil q rest)
        fun r hr => hfree r (List.mem_cons_of_mem p hr)
      rw [List.length_cons, ← hrest, occurrences, join_cons_cons,
        countP_tails_append hne hborder _ (hfree p List.mem_cons_self)]
      rfl

/-- A text stands at each joint, between the pieces. -/
theorem length_join (value : Text) : ∀ {pieces : List Text}, pieces ≠ [] →
    (join value pieces).length + value.length =
      total (pieces.map length) + pieces.length * value.length
  | [], hpieces => absurd rfl hpieces
  | [p], _ => by
      rw [List.length_singleton, Nat.one_mul]
      rfl
  | p :: q :: rest, _ => by
      have hrest := length_join value (List.cons_ne_nil q rest)
      have hlength : (join value (p :: q :: rest)).length =
          p.length + (value.length + (join value (q :: rest)).length) := by
        rw [length, join_cons_cons, List.length_append, List.length_append]
        rfl
      rw [hlength, List.map_cons, total, List.length_cons, Nat.succ_mul]
      omega

end Text

/-! ## Messages -/

open Text

theorem unbordered_placeholder : (placeholder : Text).Unbordered := by
  decide +kernel

theorem placeholder_ne_nil : (placeholder : Text).points ≠ [] := by
  decide +kernel

/-- A template of any pieces without the placeholder, joined by it, is rendered as these
    pieces joined by the name, whatever the name holds. Every template has one such
    decomposition. Its joints are the occurrences of the placeholder, each of which is
    replaced once and gives its length for that of the name. -/
theorem render_splits_and_joins :
    (∀ (pieces : List Text) (name : Text), (∀ p ∈ pieces, ¬p.Contains placeholder) →
      render (join placeholder pieces) name = join name pieces) ∧
    ∀ template : Text, ∃ pieces : List Text, template.Pieces placeholder pieces ∧
      (∀ others, template.Pieces placeholder others → others = pieces) ∧
      template.occurrences placeholder + 1 = pieces.length ∧
      ∀ name, render template name = join name pieces ∧
        (render template name).length +
            template.occurrences placeholder * (placeholder : Text).length =
          template.length + template.occurrences placeholder * name.length := by
  have hrender : ∀ (pieces : List Text) (name : Text), (∀ p ∈ pieces, ¬p.Contains placeholder) →
      render (join placeholder pieces) name = join name pieces := fun pieces name hfree =>
    substitute_join placeholder_ne_nil unbordered_placeholder hfree
  refine ⟨hrender, fun template => ?_⟩
  rcases exists_pieces placeholder_ne_nil template with ⟨pieces, hpieces⟩
  have hcount := occurrences_join placeholder_ne_nil unbordered_placeholder hpieces.nonempty
    hpieces.free
  rw [← hpieces.joined] at hcount
  refine ⟨pieces, hpieces, fun others hothers => ?_, hcount, fun name => ?_⟩
  · exact join_injective unbordered_placeholder hothers.nonempty hpieces.nonempty hothers.free
      hpieces.free (hothers.joined.symm.trans hpieces.joined)
  · have hjoined : render template name = join name pieces := by
      rw [hpieces.joined]
      exact hrender pieces name hpieces.free
    refine ⟨hjoined, ?_⟩
    have hname := length_join name hpieces.nonempty
    have hplace := length_join (placeholder : Text) hpieces.nonempty
    rw [← hjoined, ← hcount, Nat.succ_mul] at hname
    rw [← hpieces.joined, ← hcount, Nat.succ_mul] at hplace
    omega

/-- Braces around the placeholder and inside it, and a name that holds it. -/
example : render "\x7b\x7bname\x7d\x7d \x7bna\x7bname\x7dme\x7d" "<\x7bname\x7d>" =
    "\x7b<\x7bname\x7d>\x7d \x7bna<\x7bname\x7d>me\x7d" := by
  decide +kernel

end Outreach
