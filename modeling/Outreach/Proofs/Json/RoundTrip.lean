import Mathlib.Data.List.Forall2
import Outreach.Api.Rendering
import Outreach.Json.Encoding
import Outreach.Proofs.Json.Scalar
import Outreach.Proofs.Sql.Value

/-!
# Documents Read Back

A document is read back from what is written for it, from the bytes of that, and from the
text as which it travels. What this takes is that its texts have no lone halves, that its
numbers are finite and not too long, that no object has a name twice, and that it is no
deeper than is read.

That some characters are read as a list or an object follows from their parts. So a writer
is covered as soon as it is clear how it spells a text and what it puts between the parts.

## Main definitions

* `Json.Legible`: A document that can be read back.
* `Json.Printable`: A character that can be printed and is in ASCII.

## Theorems

* `Json.reads_list`, `Json.reads_object`: Lists and objects are read if their parts are.
* `Json.Legible.read_write`, `Json.Legible.readBytes?_write`: A document is read back from
  what is written, and from its bytes.
* `Json.Legible.printable`: It is written on one line.
* `Json.Legible.exists_rendered`: It is read back from the text as which it travels.
-/

namespace Outreach

namespace Json

open Text

/-! ## Lists and objects -/

/-- A mark with blanks behind it. -/
def Separates (mark : Char) (gap : List Char) : Prop :=
  ∃ blanks, gap = mark :: blanks ∧ ∀ c ∈ blanks, isGap c = true

theorem skip_blanks {blanks : List Char} (h : ∀ c ∈ blanks, isGap c = true) {c : Char}
    (hc : isGap c = false) (position : Nat) (rest : List Char) :
    Input.skip ⟨position, blanks ++ c :: rest⟩ = ⟨position + blanks.length, c :: rest⟩ := by
  rw [Input.skip]
  dsimp only
  induction blanks generalizing position with
  | nil =>
      rw [List.nil_append, skipGaps, hc]
      rfl
  | cons b blanks ih =>
      rw [List.forall_mem_cons] at h
      rw [List.cons_append, skipGaps, if_pos h.1, ih h.2, List.length_cons, Nat.add_assoc,
        Nat.add_comm 1]

theorem skip_of_not_gap {c : Char} (h : isGap c = false) (position : Nat) (rest : List Char) :
    Input.skip ⟨position, c :: rest⟩ = ⟨position, c :: rest⟩ :=
  @skip_blanks [] (fun _ hc => absurd hc List.not_mem_nil) c h position rest

theorem Reads.exists_read {depth : Nat} {v : Json} {cs : List Char} (h : Reads depth v cs)
    (position : Nat) {fuel d : Nat} {rest : List Char} (hfuel : 2 * cs.length ≤ fuel)
    (hd : depth ≤ d) (hrest : EndsNumber rest) :
    ∃ q, readValue fuel d ⟨position, cs ++ rest⟩ = .ok (v, ⟨q, rest⟩) := by
  obtain ⟨more, rfl⟩ : ∃ more, fuel = more + 1 := by
    rcases h.starts with ⟨c, tail, rfl, -, -⟩
    rw [List.length_cons] at hfuel
    exact Nat.exists_eq_add_of_le' (by omega)
  exact h.reads hfuel hd hrest

section Items

variable {depth fuel d : Nat} {v : Json} {cs : List Char} (h : Reads depth v cs)
  (hfuel : 2 * cs.length ≤ fuel) (hd : depth ≤ d) (acc : List Json) (position : Nat)
  (rest : List Char)

include h hfuel hd

/-- The last item of a list. -/
theorem readItems_last :
    ∃ q, readItems (fuel + 1) d acc ⟨position, cs ++ ']' :: rest⟩ =
      .ok (.list (v :: acc).reverse, ⟨q, rest⟩) := by
  have hend : EndsNumber (']' :: rest) := endsNumber_cons (by decide)
  have hbracket : isGap ']' = false := by decide
  rcases h.exists_read position hfuel hd hend with ⟨q, hq⟩
  refine ⟨q + 1, ?_⟩
  rw [readItems.eq_def]
  simp only [hq, bind, Except.bind, skip_of_not_gap hbracket, Input.drop, List.drop]

/-- An item of a list that others follow. -/
theorem readItems_next {gap more : List Char} (hgap : Separates ',' gap)
    (hmore : ∃ c tail, more = c :: tail ∧ isGap c = false) :
    ∃ q, readItems (fuel + 1) d acc ⟨position, cs ++ (gap ++ more)⟩ =
      readItems fuel d (v :: acc) ⟨q, more⟩ := by
  rcases hgap with ⟨blanks, rfl, hblanks⟩
  rcases hmore with ⟨c, tail, rfl, hc⟩
  have hend : EndsNumber (',' :: (blanks ++ c :: tail)) := endsNumber_cons (by decide)
  have hcomma : isGap ',' = false := by decide
  rcases h.exists_read position hfuel hd hend with ⟨q, hq⟩
  refine ⟨q + 1 + blanks.length, ?_⟩
  rw [readItems.eq_def]
  simp only [List.cons_append, hq, bind, Except.bind, skip_of_not_gap hcomma, Input.drop,
    List.drop, skip_blanks hblanks hc]

end Items

theorem starts_joined (gap : List Char) {depth : Nat} {v : Json} {cs : List Char}
    (h : Reads depth v cs) (parts : List (List Char)) :
    ∃ c tail, joined gap (cs :: parts) = c :: tail ∧ isGap c = false ∧ c ≠ ']' := by
  rcases h.starts with ⟨c, tail, rfl, hc⟩
  cases parts <;> exact ⟨c, _, rfl, hc⟩

/-- Items that are read are read one after the other. -/
theorem readItems_joined {depth : Nat} {gap : List Char} (hgap : Separates ',' gap) :
    ∀ {v : Json} {items : List Json} {cs : List Char} {parts : List (List Char)},
      Reads depth v cs → List.Forall₂ (Reads depth) items parts →
      ∀ {fuel d : Nat} (acc : List Json) (position : Nat) (rest : List Char),
        2 * (joined gap (cs :: parts)).length < fuel → depth ≤ d →
          ∃ q, readItems fuel d acc ⟨position, joined gap (cs :: parts) ++ ']' :: rest⟩ =
            .ok (.list (acc.reverse ++ v :: items), ⟨q, rest⟩) := by
  intro v items cs parts hfirst hitems
  induction hitems generalizing v cs with
  | nil =>
      intro fuel d acc position rest hfuel hd
      obtain ⟨more, rfl⟩ := Nat.exists_eq_add_of_le' (Nat.one_le_of_lt hfuel)
      rcases readItems_last hfirst (Nat.lt_succ_iff.1 hfuel) hd acc position rest with ⟨q, hq⟩
      rw [List.reverse_cons] at hq
      exact ⟨q, hq⟩
  | @cons v' cs' items parts hnext _ ih =>
      intro fuel d acc position rest hfuel hd
      obtain ⟨more, rfl⟩ := Nat.exists_eq_add_of_le' (Nat.one_le_of_lt hfuel)
      have hjoined : joined gap (cs :: cs' :: parts) ++ ']' :: rest =
          cs ++ (gap ++ (joined gap (cs' :: parts) ++ ']' :: rest)) := by
        simp only [joined, List.append_assoc]
      have hlength : (joined gap (cs :: cs' :: parts)).length =
          cs.length + gap.length + (joined gap (cs' :: parts)).length := by
        simp only [joined, List.length_append]
      have hmark : 1 ≤ gap.length := by
        rcases hgap with ⟨blanks, rfl, -⟩
        exact Nat.le_add_left 1 _
      have hfirstfuel : 2 * cs.length ≤ more := by omega
      have hnextfuel : 2 * (joined gap (cs' :: parts)).length < more := by omega
      have hmore : ∃ c tail, joined gap (cs' :: parts) ++ ']' :: rest = c :: tail ∧
          isGap c = false := by
        rcases starts_joined gap hnext parts with ⟨c, tail, hstart, hc, -⟩
        exact ⟨c, _, by rw [hstart]; rfl, hc⟩
      rcases readItems_next hfirst hfirstfuel hd acc position hgap hmore with ⟨q, hq⟩
      rcases ih hnext (v :: acc) q rest hnextfuel hd with ⟨q', hq'⟩
      refine ⟨q', ?_⟩
      rw [hjoined, hq, hq', List.reverse_cons, List.append_assoc, List.singleton_append]

/-- A list that is not empty is read item by item. -/
theorem readValue_items (fuel d position : Nat) {c : Char} {tail : List Char}
    (hgap : isGap c = false) (hc : c ≠ ']') :
    readValue (fuel + 1) (d + 1) ⟨position, '[' :: c :: tail⟩ =
      readItems fuel d [] ⟨position + 1, c :: tail⟩ := by
  rw [readValue.eq_def]
  simp only [Input.drop, List.drop, skip_of_not_gap hgap]
  split
  · next heq => exact absurd (List.cons.inj heq).1 hc
  · rfl

/-- A list is read if its items are. -/
theorem reads_list {depth : Nat} {gap : List Char} (hgap : Separates ',' gap) {items : List Json}
    {parts : List (List Char)} (h : List.Forall₂ (Reads depth) items parts) :
    Reads (depth + 1) (.list items) ('[' :: (joined gap parts ++ [']'])) := by
  refine ⟨⟨_, _, rfl, rfl, by decide⟩, fun {fuel d position rest} hfuel hd _ => ?_⟩
  obtain ⟨d, rfl⟩ := Nat.exists_eq_add_of_le' (Nat.one_le_of_lt hd)
  cases h with
  | nil =>
      have hclose : isGap ']' = false := by decide
      refine ⟨position + 2, ?_⟩
      rw [readValue.eq_def]
      simp only [joined, List.nil_append, List.cons_append, Input.drop, List.drop,
        skip_of_not_gap hclose]
  | @cons v cs items parts hfirst hitems =>
      rcases starts_joined gap hfirst parts with ⟨c, tail, hstart, hc, hclose⟩
      have hitemsfuel : 2 * (joined gap (cs :: parts)).length < fuel := by
        rw [List.length_cons, List.length_append, List.length_singleton] at hfuel
        omega
      rcases readItems_joined hgap hfirst hitems [] (position + 1) rest hitemsfuel
        (Nat.le_of_succ_le_succ hd) with ⟨q, hq⟩
      refine ⟨q, ?_⟩
      rw [hstart, List.cons_append] at hq
      rw [hstart, List.cons_append, List.append_assoc, List.singleton_append, List.cons_append,
        readValue_items _ _ _ hc hclose, hq]
      rfl

/-- The characters of a member are its name in quotes, a colon and its value. -/
def ReadsMember (depth : Nat) (m : Text × Json) (cs : List Char) : Prop :=
  ∃ name gap value, cs = '"' :: (name ++ '"' :: (gap ++ value)) ∧ ReadsText m.1 name ∧
    Separates ':' gap ∧ Reads depth m.2 value

theorem putMember_of_new {acc : List (Text × Json)} {m : Text × Json}
    (h : m.1 ∉ acc.map Prod.fst) : putMember acc m.1 m.2 = acc ++ [m] := by
  refine if_neg fun hany => h ?_
  rcases List.any_eq_true.1 hany with ⟨x, hx, hname⟩
  exact List.mem_map.2 ⟨x, hx, of_decide_eq_true hname⟩

/-- What is read behind a member, the members up to there being known. -/
def behindMember (fuel depth : Nat) (members : List (Text × Json)) (inp : Input) :
    Except Refusal (Json × Input) :=
  match inp.rest with
  | '\x7d' :: _ => .ok (.object members, inp.drop 1)
  | ',' :: _ => readMembers fuel depth members (inp.drop 1).skip
  | _ => .error (.malformed inp.position)

section Members

variable {depth fuel d : Nat} {m : Text × Json} {cs : List Char} (h : ReadsMember depth m cs)
  (hfuel : 2 * cs.length ≤ fuel) (hd : depth ≤ d) (acc : List (Text × Json)) (position : Nat)
  (rest : List Char)

include h hfuel hd

/-- A member is read up to what stands behind it. -/
theorem exists_readMember {c : Char} (hc : isGap c = false) (hend : EndsNumber (c :: rest)) :
    ∃ q, readMembers (fuel + 1) d acc ⟨position, cs ++ c :: rest⟩ =
      behindMember fuel d (putMember acc m.1 m.2) ⟨q, c :: rest⟩ := by
  rcases h with ⟨name, gap, value, rfl, hname, ⟨blanks, rfl, hblanks⟩, hvalue⟩
  have hcolon : isGap ':' = false := by decide
  rcases hvalue.starts with ⟨first, tail, hstart, hfirst, -⟩
  rcases hname position (position + 1) (':' :: (blanks ++ (value ++ c :: rest))) with ⟨q, hq⟩
  have hvaluefuel : 2 * value.length ≤ fuel := by
    simp only [List.length_cons, List.length_append] at hfuel
    omega
  rcases hvalue.exists_read (q + 1 + blanks.length) hvaluefuel hd hend with ⟨q', hq'⟩
  refine ⟨q', ?_⟩
  have hskip : Input.skip ⟨q + 1, blanks ++ (value ++ c :: rest)⟩ =
      ⟨q + 1 + blanks.length, value ++ c :: rest⟩ := by
    rw [hstart, List.cons_append]
    exact skip_blanks hblanks hfirst _ _
  rw [readMembers.eq_def]
  simp only [List.cons_append, List.append_assoc, hq, bind, Except.bind, skip_of_not_gap hcolon,
    Input.drop, List.drop, hskip, hq', skip_of_not_gap hc]
  rfl

end Members

theorem starts_members (gap : List Char) {depth : Nat} {m : Text × Json} {cs : List Char}
    (h : ReadsMember depth m cs) (parts : List (List Char)) :
    ∃ tail, joined gap (cs :: parts) = '"' :: tail := by
  rcases h with ⟨_, _, _, rfl, -⟩
  cases parts <;> exact ⟨_, rfl⟩

/-- Members with names of their own are read one after the other, behind those already read. -/
theorem readMembers_joined {depth : Nat} {gap : List Char} (hgap : Separates ',' gap) :
    ∀ {m : Text × Json} {ms : List (Text × Json)} {cs : List Char} {parts : List (List Char)},
      ReadsMember depth m cs → List.Forall₂ (ReadsMember depth) ms parts →
      ∀ {fuel d : Nat} (acc : List (Text × Json)) (position : Nat) (rest : List Char),
        ((acc ++ m :: ms).map Prod.fst).Nodup →
        2 * (joined gap (cs :: parts)).length < fuel → depth ≤ d →
          ∃ q, readMembers fuel d acc ⟨position, joined gap (cs :: parts) ++ '\x7d' :: rest⟩ =
            .ok (.object (acc ++ m :: ms), ⟨q, rest⟩) := by
  have hnew : ∀ {acc : List (Text × Json)} {m : Text × Json} {more : List (Text × Json)},
      ((acc ++ m :: more).map Prod.fst).Nodup → putMember acc m.1 m.2 = acc ++ [m] := by
    intro acc m more hnames
    rw [List.map_append, List.map_cons] at hnames
    refine putMember_of_new fun hmem => ?_
    exact (List.nodup_append.1 hnames).2.2 _ hmem _ List.mem_cons_self rfl
  intro m ms cs parts hfirst hmembers
  induction hmembers generalizing m cs with
  | nil =>
      intro fuel d acc position rest hnames hfuel hd
      obtain ⟨more, rfl⟩ := Nat.exists_eq_add_of_le' (Nat.one_le_of_lt hfuel)
      have hend : EndsNumber ('\x7d' :: rest) := endsNumber_cons (by decide)
      rcases exists_readMember hfirst (Nat.lt_succ_iff.1 hfuel) hd acc position rest (by decide)
        hend with ⟨q, hq⟩
      rw [hnew hnames] at hq
      exact ⟨q + 1, hq⟩
  | @cons m' cs' ms parts hnext _ ih =>
      intro fuel d acc position rest hnames hfuel hd
      obtain ⟨more, rfl⟩ := Nat.exists_eq_add_of_le' (Nat.one_le_of_lt hfuel)
      rcases hgap with ⟨blanks, rfl, hblanks⟩
      have hjoined : joined (',' :: blanks) (cs :: cs' :: parts) ++ '\x7d' :: rest =
          cs ++ ',' :: (blanks ++ (joined (',' :: blanks) (cs' :: parts) ++ '\x7d' :: rest)) := by
        simp only [joined, List.append_assoc, List.cons_append]
      have hlength : (joined (',' :: blanks) (cs :: cs' :: parts)).length =
          cs.length + (blanks.length + 1) + (joined (',' :: blanks) (cs' :: parts)).length := by
        simp only [joined, List.length_append, List.length_cons]
      have hfirstfuel : 2 * cs.length ≤ more := by omega
      have hnextfuel : 2 * (joined (',' :: blanks) (cs' :: parts)).length < more := by omega
      have hend : EndsNumber
          (',' :: (blanks ++ (joined (',' :: blanks) (cs' :: parts) ++ '\x7d' :: rest))) :=
        endsNumber_cons (by decide)
      rcases exists_readMember hfirst hfirstfuel hd acc position _ (by decide) hend with ⟨q, hq⟩
      rw [hnew hnames] at hq
      have happend : acc ++ m :: m' :: ms = (acc ++ [m]) ++ m' :: ms := by
        rw [List.append_assoc, List.singleton_append]
      rw [happend] at hnames ⊢
      rcases ih hnext (acc ++ [m]) (q + 1 + blanks.length) rest hnames hnextfuel hd
        with ⟨q', hq'⟩
      have hskip : Input.skip
          ⟨q + 1, blanks ++ (joined (',' :: blanks) (cs' :: parts) ++ '\x7d' :: rest)⟩ =
            ⟨q + 1 + blanks.length, joined (',' :: blanks) (cs' :: parts) ++ '\x7d' :: rest⟩ := by
        rcases starts_members (',' :: blanks) hnext parts with ⟨tail, hstart⟩
        rw [hstart]
        exact skip_blanks hblanks (by decide) _ _
      refine ⟨q', ?_⟩
      rw [hjoined, hq]
      exact (congrArg (readMembers more d (acc ++ [m])) hskip).trans hq'

/-- An object that is not empty is read member by member. -/
theorem readValue_members (fuel d position : Nat) (tail : List Char) :
    readValue (fuel + 1) (d + 1) ⟨position, '\x7b' :: '"' :: tail⟩ =
      readMembers fuel d [] ⟨position + 1, '"' :: tail⟩ := by
  have hquote : isGap '"' = false := by decide
  rw [readValue.eq_def]
  simp only [Input.drop, List.drop, skip_of_not_gap hquote]
  rfl

/-- An object is read if its members are and no name occurs twice. -/
theorem reads_object {depth : Nat} {gap : List Char} (hgap : Separates ',' gap)
    {ms : List (Text × Json)} {parts : List (List Char)}
    (h : List.Forall₂ (ReadsMember depth) ms parts) (hnames : (ms.map Prod.fst).Nodup) :
    Reads (depth + 1) (.object ms) ('\x7b' :: (joined gap parts ++ ['\x7d'])) := by
  refine ⟨⟨_, _, rfl, rfl, by decide⟩, fun {fuel d position rest} hfuel hd _ => ?_⟩
  obtain ⟨d, rfl⟩ := Nat.exists_eq_add_of_le' (Nat.one_le_of_lt hd)
  cases h with
  | nil =>
      have hclose : isGap '\x7d' = false := by decide
      refine ⟨position + 2, ?_⟩
      rw [readValue.eq_def]
      simp only [joined, List.nil_append, List.cons_append, Input.drop, List.drop,
        skip_of_not_gap hclose]
  | @cons m cs ms parts hfirst hmembers =>
      rcases starts_members gap hfirst parts with ⟨tail, hstart⟩
      have hmembersfuel : 2 * (joined gap (cs :: parts)).length < fuel := by
        rw [List.length_cons, List.length_append, List.length_singleton] at hfuel
        omega
      rcases readMembers_joined hgap hfirst hmembers [] (position + 1) rest hnames hmembersfuel
        (Nat.le_of_succ_le_succ hd) with ⟨q, hq⟩
      refine ⟨q, ?_⟩
      rw [hstart, List.cons_append] at hq
      rw [hstart, List.cons_append, List.append_assoc, List.singleton_append, List.cons_append,
        readValue_members, hq]
      rfl

/-! ## Documents -/

/-- A character that can be printed and is in ASCII. -/
def Printable (c : Char) : Prop := 0x20 ≤ c.toNat ∧ c.toNat ≤ 0x7E

instance : DecidablePred Printable := fun c =>
  inferInstanceAs (Decidable (0x20 ≤ c.toNat ∧ c.toNat ≤ 0x7E))

theorem printable_of_all {cs : List Char} (h : (cs.all fun c => Printable c) = true) :
    ∀ c ∈ cs, Printable c :=
  fun c hc => of_decide_eq_true (List.all_eq_true.1 h c hc)

/-- Characters that are read as a value make a document. -/
theorem readWithin_of_reads {depth : Nat} {v : Json} {cs : List Char} (h : Reads depth v cs)
    {d : Nat} (hd : depth ≤ d) : readWithin d cs = .ok v := by
  have hend : EndsNumber [] := fun c hc => nomatch hc
  have hfuel : 2 * cs.length ≤ 2 * cs.length + 2 := Nat.le_add_right _ _
  rcases h.exists_read 0 hfuel hd hend with ⟨q, hq⟩
  rw [List.append_nil] at hq
  have hstart : skipGaps 0 cs = ⟨0, cs⟩ := by
    rcases h.starts with ⟨c, tail, rfl, hc, -⟩
    exact skip_of_not_gap hc 0 tail
  rw [readWithin, hstart, hq]
  rfl

/-- A document that can be read back: its texts have no lone halves, its numbers are finite
    and have no more digits than are read, and in an object no name occurs twice. Lists and
    objects stand no deeper than so deep inside each other. -/
inductive Legible : Nat → Json → Prop
  | null {depth : Nat} : Legible depth .null
  | bool {depth : Nat} (b : Bool) : Legible depth (.bool b)
  | int {depth : Nat} {n : Int} (h : (decimalDigits n.natAbs).length ≤ wholeDigitLimit) :
      Legible depth (.int n)
  | double {depth : Nat} {x : Double} (h : x.isFinite = true) : Legible depth (.double x)
  | text {depth : Nat} {t : Text} (h : t.Whole) : Legible depth (.text t)
  | list {depth : Nat} {items : List Json} (h : ∀ v ∈ items, Legible depth v) :
      Legible (depth + 1) (.list items)
  | object {depth : Nat} {ms : List (Text × Json)} (hnames : (ms.map Prod.fst).Nodup)
      (htexts : ∀ m ∈ ms, m.1.Whole) (h : ∀ m ∈ ms, Legible depth m.2) :
      Legible (depth + 1) (.object ms)

/-- What is written between items and behind names is a mark with blanks behind it. -/
structure Spacing.Proper (sp : Spacing) : Prop where
  betweenItems : Separates ',' sp.betweenItems
  behindName : Separates ':' sp.behindName
  inline : ∀ c ∈ sp.betweenItems ++ sp.behindName, Printable c

theorem proper_tight : tight.Proper :=
  ⟨⟨[], rfl, fun _ hc => absurd hc List.not_mem_nil⟩,
    ⟨[], rfl, fun _ hc => absurd hc List.not_mem_nil⟩, printable_of_all (by decide)⟩

theorem proper_airy : airy.Proper :=
  ⟨⟨[' '], rfl, List.forall_mem_singleton.2 rfl⟩, ⟨[' '], rfl, List.forall_mem_singleton.2 rfl⟩,
    printable_of_all (by decide)⟩

theorem writeItems_eq_map (sp : Spacing) (items : List Json) :
    writeChars.writeItems sp items = items.map (writeChars sp) := by
  induction items with
  | nil => rfl
  | cons v items ih => rw [writeChars.writeItems, ih, List.map_cons]

theorem writeMembers_eq_map (sp : Spacing) (ms : List (Text × Json)) :
    writeChars.writeMembers sp ms =
      ms.map fun m => writtenText m.1 ++ sp.behindName ++ writeChars sp m.2 := by
  induction ms with
  | nil => rfl
  | cons m ms ih => rw [writeChars.writeMembers, ih, List.map_cons]

theorem writtenDouble_of_isFinite {x : Double} (h : x.isFinite = true) :
    writtenDouble x = x.text.toList := by
  rw [Double.isFinite, Bool.and_eq_true, Bool.not_eq_true', Bool.not_eq_true'] at h
  simp only [writtenDouble, h.1, h.2, Bool.false_eq_true, if_false]

/-- A legible document is read back from what is written, whatever the spacing. -/
theorem Legible.reads_writeChars {depth : Nat} {v : Json} (h : Legible depth v) {sp : Spacing}
    (hsp : sp.Proper) : Reads depth v (writeChars sp v) := by
  induction h with
  | null => exact reads_null _ sp
  | bool b => exact reads_bool _ b sp
  | int h =>
      rw [writeChars]
      exact reads_int _ h
  | double h =>
      rw [writeChars, writtenDouble_of_isFinite h]
      exact reads_double _ h
  | text h =>
      rw [writeChars]
      exact reads_text _ (readsText_flatMap h spelling_escapedPoint)
  | list h ih =>
      rw [writeChars, writeItems_eq_map]
      exact reads_list hsp.betweenItems (List.forall₂_map_right_iff.2 (List.forall₂_same.2 ih))
  | @object depth ms hnames htexts h ih =>
      rw [writeChars, writeMembers_eq_map]
      refine reads_object hsp.betweenItems
        (List.forall₂_map_right_iff.2 (List.forall₂_same.2 fun m hm => ?_)) hnames
      refine ⟨_, _, _, ?_, readsText_flatMap (htexts m hm) spelling_escapedPoint, hsp.behindName,
        ih m hm⟩
      simp only [writtenText, List.cons_append, List.append_assoc, List.nil_append]


/-! ## Characters of documents -/

theorem printable_unicodeEscape (n : Nat) : ∀ c ∈ unicodeEscape n, Printable c := by
  have hhex : ∀ c ∈ "0123456789abcdef".toList, Printable c := printable_of_all (by decide)
  exact List.forall_mem_cons.2 ⟨by decide, List.forall_mem_cons.2
    ⟨by decide, fun c hc => hhex c (isHex_of_mem 4 hc)⟩⟩

theorem printable_escapedPoint (p : Point) : ∀ c ∈ escapedPoint p, Printable c := by
  cases p with
  | half k => exact printable_unicodeEscape _
  | char c =>
      simp only [escapedPoint]
      split
      · exact printable_of_all (by decide)
      split
      · exact printable_of_all (by decide)
      split
      · exact printable_of_all (by decide)
      split
      · exact printable_of_all (by decide)
      split
      · exact printable_of_all (by decide)
      split
      · exact printable_of_all (by decide)
      split
      · exact printable_of_all (by decide)
      split
      · next h => exact List.forall_mem_singleton.2 h
      split
      · exact printable_unicodeEscape _
      · exact List.forall_mem_append.2 ⟨printable_unicodeEscape _, printable_unicodeEscape _⟩

theorem printable_writtenText (t : Text) : ∀ c ∈ writtenText t, Printable c := by
  refine List.forall_mem_cons.2 ⟨by decide, List.forall_mem_append.2
    ⟨fun c hc => ?_, List.forall_mem_singleton.2 (by decide)⟩⟩
  rcases List.mem_flatMap.1 hc with ⟨p, -, hc⟩
  exact printable_escapedPoint p c hc

theorem printable_of_numeral {c : Char} (h : c ∈ numeralChars) : Printable c :=
  printable_of_all (by decide) c h

theorem forall_mem_joined {P : Char → Prop} {gap : List Char} (hgap : ∀ c ∈ gap, P c)
    {parts : List (List Char)} (h : ∀ part ∈ parts, ∀ c ∈ part, P c) :
    ∀ c ∈ joined gap parts, P c := by
  induction parts with
  | nil => exact fun c hc => absurd hc List.not_mem_nil
  | cons part parts ih =>
      rw [List.forall_mem_cons] at h
      cases parts with
      | nil => exact h.1
      | cons part' parts =>
          exact List.forall_mem_append.2 ⟨List.forall_mem_append.2 ⟨h.1, hgap⟩, ih h.2⟩

/-- A legible document is written on one line of printable characters. -/
theorem Legible.printable {depth : Nat} {v : Json} (h : Legible depth v) {sp : Spacing}
    (hsp : sp.Proper) : ∀ c ∈ writeChars sp v, Printable c := by
  rcases List.forall_mem_append.1 hsp.inline with ⟨hitems, hnames⟩
  induction h with
  | null =>
      rw [writeChars]
      exact printable_of_all (by decide)
  | bool b =>
      cases b <;> rw [writeChars] <;> exact printable_of_all (by decide)
  | int _ =>
      rw [writeChars]
      exact fun c hc => printable_of_numeral (numeral_of_mem_toString _ c hc)
  | double h =>
      rw [writeChars, writtenDouble_of_isFinite h]
      exact fun c hc => printable_of_numeral (Double.numeral_of_mem_text h c hc)
  | text _ =>
      rw [writeChars]
      exact printable_writtenText _
  | list _ ih =>
      rw [writeChars, writeItems_eq_map]
      refine List.forall_mem_cons.2 ⟨by decide, List.forall_mem_append.2
        ⟨forall_mem_joined hitems (List.forall_mem_map.2 ih),
          List.forall_mem_singleton.2 (by decide)⟩⟩
  | object _ _ _ ih =>
      rw [writeChars, writeMembers_eq_map]
      refine List.forall_mem_cons.2 ⟨by decide, List.forall_mem_append.2
        ⟨forall_mem_joined hitems (List.forall_mem_map.2 fun m hm => ?_),
          List.forall_mem_singleton.2 (by decide)⟩⟩
      exact List.forall_mem_append.2 ⟨List.forall_mem_append.2
        ⟨printable_writtenText _, hnames⟩, ih m hm⟩

/-! ## Bytes -/

theorem bytesOf_of_ascii {c : Char} (h : c.toNat < 0x80) : bytesOf c = [c.toNat] := by
  have hval : c.val.toNat ≤ 0x7F := Nat.le_of_lt_succ h
  have hbyte : (UInt8.ofNat c.val.toNat).toNat = c.toNat :=
    Nat.mod_eq_of_lt (Nat.lt_of_lt_of_le h (by decide))
  rw [bytesOf, String.utf8EncodeChar, if_pos hval, List.map_singleton, hbyte]

theorem flatMap_bytesOf_of_ascii {cs : List Char} (h : ∀ c ∈ cs, c.toNat < 0x80) :
    cs.flatMap bytesOf = cs.map Char.toNat := by
  induction cs with
  | nil => rfl
  | cons c rest ih =>
      rw [List.forall_mem_cons] at h
      rw [List.flatMap_cons, bytesOf_of_ascii h.1, ih h.2, List.map_cons, List.singleton_append]

theorem decodeChars_of_ascii {cs : List Char} (h : ∀ c ∈ cs, c.toNat < 0x80) :
    decodeChars (cs.map Char.toNat) = cs := by
  induction cs with
  | nil =>
      rw [List.map_nil, decodeChars, pieces]
      rfl
  | cons c rest ih =>
      rw [List.forall_mem_cons] at h
      have hrest := ih h.2
      rw [decodeChars] at hrest
      have hpiece : firstPiece c.toNat (rest.map Char.toNat) = ⟨[c.toNat], some c⟩ := by
        rw [firstPiece, if_pos h.1, Char.ofNat_toNat]
      rw [List.map_cons, decodeChars, pieces, hpiece, List.map_cons]
      exact congrArg (c :: ·) hrest

/-- A document none of whose bytes is zero has units of one byte. -/
theorem widthOf_of_pos {bs : List Nat} (h : ∀ b ∈ bs, b ≠ 0) : widthOf bs = .bytes := by
  match bs with
  | [] => rfl
  | [a] => rfl
  | [a, b] =>
      rw [List.forall_mem_cons, List.forall_mem_cons] at h
      rw [widthOf, if_neg h.1, if_neg h.2.1]
  | [a, b, c] => rfl
  | a :: b :: c :: d :: rest =>
      rw [List.forall_mem_cons, List.forall_mem_cons] at h
      rw [widthOf, if_neg h.1, if_neg h.2.1]

/-- The characters of a document of printable characters. -/
theorem charsOf?_of_printable {cs : List Char} (h : ∀ c ∈ cs, Printable c) :
    charsOf? (cs.flatMap bytesOf) = some cs := by
  have hascii : ∀ c ∈ cs, c.toNat < 0x80 :=
    fun c hc => Nat.lt_of_le_of_lt (h c hc).2 (by decide)
  have hwidth : widthOf (cs.map Char.toNat) = .bytes := by
    refine widthOf_of_pos fun b hb => ?_
    rcases List.mem_map.1 hb with ⟨c, hc, rfl⟩
    exact Nat.pos_iff_ne_zero.1 (Nat.lt_of_lt_of_le (by decide) (h c hc).1)
  have hmark : withoutMark cs = cs := by
    unfold withoutMark
    split
    · exact absurd (hascii _ List.mem_cons_self) (by decide)
    · rfl
  rw [charsOf?, flatMap_bytesOf_of_ascii hascii, hwidth]
  exact congrArg some ((congrArg withoutMark (decodeChars_of_ascii hascii)).trans hmark)

theorem legible_record {depth : Nat} {members : List (String × Json)}
    (hnames : (members.map Prod.fst).Nodup) (h : ∀ m ∈ members, Legible depth m.2) :
    Legible (depth + 1) (.record members) := by
  refine .object ?_ (List.forall_mem_map.2 fun m _ => whole_ofString m.1)
    (List.forall_mem_map.2 h)
  have hcompose : (members.map fun m => (ofString m.1, m.2)).map Prod.fst =
      (members.map Prod.fst).map ofString := by
    rw [List.map_map, List.map_map]
    rfl
  rw [hcompose]
  exact hnames.map fun _ _ h => ofString_inj.1 h

/-- A legible document is read back from its bytes. -/
theorem Legible.readBytes?_write {v : Json} (h : Legible depthLimit v) {sp : Spacing}
    (hsp : sp.Proper) : readBytes? ((write sp v).toList.flatMap bytesOf) = some (.ok v) := by
  have hread : readChars (writeChars sp v) = .ok v :=
    readWithin_of_reads (h.reads_writeChars hsp) (Nat.le_refl _)
  rw [write, String.toList_ofList, readBytes?, charsOf?_of_printable (h.printable hsp),
    Option.map_some, hread]

/-- A legible document is read back from its text, if that is as long as it is deep. -/
theorem Legible.read_write {depth : Nat} {v : Json} (h : Legible depth v) {sp : Spacing}
    (hsp : sp.Proper) (hdepth : depth ≤ (writeChars sp v).length) : read (write sp v) = .ok v := by
  rw [read, write, String.toList_ofList, String.length_ofList]
  exact readWithin_of_reads (h.reads_writeChars hsp) hdepth

/-! ## Documents as they travel -/

/-- What stands for a point in a text as it travels. -/
def travellingPoint : Point → List Char
  | .char c => if 0x7E < c.toNat then [c] else escapedPoint (.char c)
  | .half _ => []

theorem spelling_travellingPoint (c : Char) : Spelling c (travellingPoint (.char c)) := by
  rw [travellingPoint]
  split
  · next h =>
    refine .plain (by omega) ?_ ?_
    · rintro rfl
      exact absurd h (by decide)
    · rintro rfl
      exact absurd h (by decide)
  · exact spelling_escapedPoint c

theorem renderedText_eq {t : Text} (h : t.Whole) :
    ∃ body, renderedText t = ('"' :: (body ++ ['"'])).map .char ∧ ReadsText t body := by
  refine ⟨t.points.flatMap travellingPoint, ?_, readsText_flatMap h spelling_travellingPoint⟩
  have hpoints : t.points.flatMap renderedPoint =
      (t.points.flatMap travellingPoint).map .char := by
    rw [List.map_flatMap]
    refine List.flatMap_congr fun p hp => ?_
    cases p with
    | half k => cases h _ hp
    | char c =>
        rw [travellingPoint, apply_ite (List.map Point.char)]
        rfl
  rw [renderedText, hpoints, List.map_cons, List.map_append]
  rfl

theorem commas_map (parts : List (List Char)) :
    commas (parts.map (List.map .char)) = (joined [','] parts).map .char := by
  induction parts with
  | nil => rfl
  | cons part parts ih =>
      cases parts with
      | nil => rfl
      | cons part' parts =>
          have hjoined : joined [','] (part :: part' :: parts) =
              part ++ ',' :: joined [','] (part' :: parts) := by
            simp only [joined, List.append_assoc, List.singleton_append]
          change part.map Point.char ++
            .char ',' :: commas ((part' :: parts).map (List.map .char)) = _
          rw [ih, hjoined, List.map_append, List.map_cons]

/-- Parts that travel, one for each of some things, are written as their characters. -/
theorem exists_parts {α : Type} {R : α → List Char → Prop} {points : α → List Point} {xs : List α}
    (h : ∀ x ∈ xs, ∃ cs, points x = cs.map .char ∧ R x cs) :
    ∃ parts, xs.map points = parts.map (List.map .char) ∧ List.Forall₂ R xs parts := by
  induction xs with
  | nil => exact ⟨[], rfl, .nil⟩
  | cons x xs ih =>
      rw [List.forall_mem_cons] at h
      rcases h.1 with ⟨cs, hcs, hread⟩
      rcases ih h.2 with ⟨parts, hparts, hreads⟩
      exact ⟨cs :: parts, by rw [List.map_cons, hcs, hparts, List.map_cons], .cons hread hreads⟩

theorem ofItems_eq_map (items : List Json) :
    renderedPoints.ofItems items = items.map renderedPoints := by
  induction items with
  | nil => rfl
  | cons v items ih => rw [renderedPoints.ofItems, ih, List.map_cons]

theorem ofMembers_eq_map (ms : List (Text × Json)) :
    renderedPoints.ofMembers ms =
      ms.map fun m => renderedText m.1 ++ .char ':' :: m.2.renderedPoints := by
  induction ms with
  | nil => rfl
  | cons m ms ih => rw [renderedPoints.ofMembers, ih, List.map_cons]

/-- A legible document is read back from the text as which it travels. -/
theorem Legible.exists_renderedPoints {depth : Nat} {v : Json} (h : Legible depth v) :
    ∃ cs, v.renderedPoints = cs.map .char ∧ Reads depth v cs := by
  induction h with
  | null =>
      refine ⟨writeChars tight .null, ?_, reads_null _ tight⟩
      rw [renderedPoints]
  | bool b =>
      refine ⟨writeChars tight (.bool b), ?_, reads_bool _ b tight⟩
      rw [renderedPoints]
  | int h =>
      refine ⟨writeChars tight (.int _), ?_, (Legible.int h).reads_writeChars proper_tight⟩
      rw [renderedPoints]
  | double h =>
      refine ⟨writeChars tight (.double _), ?_, (Legible.double h).reads_writeChars proper_tight⟩
      rw [renderedPoints]
  | text h =>
      rcases renderedText_eq h with ⟨body, hbody, hread⟩
      refine ⟨_, ?_, reads_text _ hread⟩
      rw [renderedPoints, hbody]
  | list _ ih =>
      rcases exists_parts ih with ⟨parts, hparts, hreads⟩
      refine ⟨_, ?_, reads_list proper_tight.betweenItems hreads⟩
      rw [renderedPoints, ofItems_eq_map, hparts, commas_map, List.map_cons, List.map_append]
      rfl
  | @object depth ms hnames htexts _ ih =>
      have hmembers : ∀ m ∈ ms, ∃ cs : List Char,
          renderedText m.1 ++ .char ':' :: m.2.renderedPoints = cs.map .char ∧
            ReadsMember depth m cs := by
        intro m hm
        rcases renderedText_eq (htexts m hm) with ⟨name, hname, hreadname⟩
        rcases ih m hm with ⟨value, hvalue, hread⟩
        refine ⟨'"' :: (name ++ '"' :: ([':'] ++ value)), ?_, name, [':'], value, rfl, hreadname,
          proper_tight.behindName, hread⟩
        rw [hname, hvalue]
        simp only [List.map_cons, List.map_append, List.map_nil, List.cons_append,
          List.append_assoc, List.nil_append]
      rcases exists_parts hmembers with ⟨parts, hparts, hreads⟩
      refine ⟨_, ?_, reads_object proper_tight.betweenItems hreads hnames⟩
      rw [renderedPoints, ofMembers_eq_map, hparts, commas_map, List.map_cons, List.map_append]
      rfl

/-- A legible document travels as a text that is read as the document. -/
theorem Legible.exists_rendered {v : Json} (h : Legible depthLimit v) :
    ∃ cs, v.rendered = ofChars cs ∧ readChars cs = .ok v := by
  rcases h.exists_renderedPoints with ⟨cs, hcs, hread⟩
  exact ⟨cs, congrArg Text.mk hcs, readWithin_of_reads hread (Nat.le_refl _)⟩

end Json

end Outreach
