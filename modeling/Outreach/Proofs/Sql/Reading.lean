import Mathlib.Data.List.Forall2
import Outreach.Proofs.Sql.Clause

/-!
# The Text of a Clause Is Read as It Was Meant

The conditions of a `WHERE` clause leave as one text, and the values they compare
with leave beside it under names. What selects the rows is what a database makes
of the two, so the text is read here by the grammar of SQL: blanks part words, the
word `AND` parts conditions, and a condition is a truth value or a comparison of a
column with a placeholder. A placeholder stands for the one parameter of its name,
which has to be of the type it is cast to.

The names are built from a column and a number. The underscore between the two is
the last one of a name, so different pairs have different names.

## Main definitions

* `SqlType`: The types that placeholders are cast to.
* `WhereTerm`, `WhereTerm.read?`: A condition as it is read.
* `Where.read?`: The conditions of a text.
* `Where.holds?`: Whether a text with parameters holds of a row.
* `Predicate.where`: The text and the parameters of a predicate.

## Theorems

* `Where.read?_conditionsText`: The conditions of a text are those it was made of.
* `nodup_names_numbered`: No two parameters share a name.
* `Predicate.where_selects`: A text selects whom its predicate matches.
-/

namespace Outreach

/-! ## The grammar -/

/-- The type that a placeholder is cast to. -/
inductive SqlType
  | untyped
  | integer
  | varchar
  | timestamp
  | uuid
  deriving DecidableEq

namespace SqlType

/-- The text of a cast. -/
def text : SqlType → String
  | .untyped => ""
  | .integer => "::INTEGER"
  | .varchar => "::VARCHAR"
  | .timestamp => "::TIMESTAMP WITH TIME ZONE"
  | .uuid => "::UUID"

/-- The type with a text. -/
def ofText? (cs : List Char) : Option SqlType :=
  [untyped, integer, varchar, timestamp, uuid].find? fun t => t.text.toList == cs

/-- Whether a value can be cast to a type. Integers have 32 bits. -/
def admits : SqlType → SqlValue → Bool
  | .untyped, _ => true
  | .integer, .int n => decide (-2 ^ 31 ≤ n) && decide (n < 2 ^ 31)
  | .varchar, .text _ => true
  | .timestamp, .time _ => true
  | .uuid, .id _ => true
  | _, _ => false

theorem ofText?_text (t : SqlType) : ofText? t.text.toList = some t := by
  cases t <;> decide

end SqlType

/-- The type that a value is cast to. -/
def SqlValue.type : SqlValue → SqlType
  | .null => .untyped
  | .int _ => .integer
  | .double _ => .untyped
  | .text _ => .varchar
  | .time _ => .timestamp
  | .id _ => .uuid

theorem SqlValue.cast_eq (v : SqlValue) : v.cast = v.type.text := by
  cases v <;> rfl

/-- A condition as it is read. -/
inductive WhereTerm
  | constant (truth : Bool)
  | compare (column : String) (comparator : Comparator) (parameter : String) (type : SqlType)
  deriving DecidableEq

namespace WhereTerm

/-- The column that a word names, which has to be one of the customers. -/
def column? (w : List Char) : Option String :=
  match w.splitOn '.' with
  | [table, column] => if table = "customers".toList then some (String.ofList column) else none
  | _ => none

/-- The comparator that a word stands for. -/
def comparator? (w : List Char) : Option Comparator :=
  [Comparator.gt, .lt, .ge, .le, .eq].find? fun c => c.sql.toList == w

/-- The name and the type of a placeholder. -/
def placeholder? : List Char → Option (String × SqlType)
  | '%' :: '(' :: rest =>
    match rest.splitOn ')' with
    | [name, 's' :: cast] => (SqlType.ofText? cast).map fun t => (String.ofList name, t)
    | _ => none
  | _ => none

/-- The condition that some words make. -/
def read? : List (List Char) → Option WhereTerm
  | [] => none
  | [w] =>
    if w = "true".toList then some (.constant true)
    else if w = "false".toList then some (.constant false)
    else none
  | column :: comparator :: operand => do
    let column ← column? column
    let comparator ← comparator? comparator
    -- The name of a type may have several words.
    let (parameter, type) ← placeholder? ([' '].intercalate operand)
    some (.compare column comparator parameter type)

/-- The placeholder of a condition. -/
def parameter? : WhereTerm → Option String
  | .constant _ => none
  | .compare _ _ parameter _ => some parameter

end WhereTerm

namespace Where

/-- The conditions of a text. No text is no condition. -/
def read? (text : String) : Option (List WhereTerm) :=
  if text.toList = [] then some []
  else ((text.toList.splitOn ' ').splitOn "AND".toList).mapM WhereTerm.read?

variable (params : List (String × SqlValue)) (row : String → SqlValue)

/-- What a placeholder stands for: the value of the one parameter with its name,
    if it is of the right type. -/
def bound? (name : String) (type : SqlType) : Option SqlValue :=
  match params.filter fun p => p.1 = name with
  | [(_, v)] => if type.admits v then some v else none
  | _ => none

/-- The column, the comparator and the value of a condition that compares. -/
def compared? : WhereTerm → Option (String × Comparator × SqlValue)
  | .constant _ => none
  | .compare column comparator name type =>
    (bound? params name type).map fun v => (column, comparator, v)

/-- Whether a condition holds of a row, if its placeholder stands for a value. -/
def termHolds? : WhereTerm → Option Bool
  | .constant truth => some truth
  | .compare column comparator name type =>
    (bound? params name type).map fun v => SqlValue.satisfies comparator (row column) v

/-- Whether a text holds of a row, if it can be read. -/
def holds? (text : String) : Option Bool := do
  let terms ← read? text
  let truths ← terms.mapM (termHolds? params row)
  some (truths.all id)

end Where

/-- The text of the clause of a predicate, and its parameters. -/
def Predicate.where (p : Predicate) : Except Fault (String × List (String × SqlValue)) := do
  let conditions ← (← p.clause).printable
  .ok (conditionsText conditions, conditions.flatMap SqlCondition.parameters)

/-! ## One condition -/

/-- The name of the parameter with a number among those of a column. -/
def parameterName (column : String) (number : Nat) : String :=
  column ++ "_" ++ toString number

theorem toList_parameterName (column : String) (number : Nat) :
    (parameterName column number).toList = column.toList ++ '_' :: Nat.toDigits 10 number := by
  have hnumber : (toString number).toList = Nat.toDigits 10 number := Nat.toList_repr
  simp only [parameterName, String.toList_append, hnumber, List.append_assoc]
  rfl

theorem not_mem_toDigits {c : Char} (hc : c.isDigit = false) (number : Nat) :
    c ∉ Nat.toDigits 10 number := by
  intro hmem
  have hdigit := Nat.isDigit_of_mem_toDigits (by omega) (by omega) hmem
  rw [hc] at hdigit
  cases hdigit

/-- Numbers are digits, so a name can be cut at its last underscore. -/
theorem parameterName_inj {column column' : String} {number number' : Nat}
    (h : parameterName column number = parameterName column' number') :
    column = column' ∧ number = number' := by
  have hlists := congrArg String.toList h
  simp only [toList_parameterName] at hlists
  have hreverse := congrArg List.reverse hlists
  simp only [List.reverse_append, List.reverse_cons, List.append_assoc,
    List.singleton_append] at hreverse
  have hdigits : ∀ n : Nat, '_' ∉ (Nat.toDigits 10 n).reverse := by
    intro n hmem
    exact not_mem_toDigits (by decide) n (List.mem_reverse.1 hmem)
  -- Read from behind, both names have their first underscore in front of the number.
  have hsplit := congrArg (List.splitOn '_') hreverse
  rw [List.splitOn_append_cons_self_of_not_mem (hdigits number),
    List.splitOn_append_cons_self_of_not_mem (hdigits number'), List.cons.injEq,
    List.reverse_inj] at hsplit
  rw [hsplit.1] at hlists
  refine ⟨String.toList_inj.1 (List.append_cancel_right hlists), ?_⟩
  rw [← Nat.ofDigitChars_ten_toDigits (n := number), hsplit.1, Nat.ofDigitChars_ten_toDigits]

namespace WhereTerm

/-- The names of columns: without blanks and points. -/
def IsName (column : String) : Prop :=
  ' ' ∉ column.toList ∧ '.' ∉ column.toList ∧ ')' ∉ column.toList

instance : DecidablePred IsName := fun _ => inferInstanceAs (Decidable (_ ∧ _ ∧ _))

theorem column?_of_isName {column : String} (h : IsName column) :
    column? ("customers." ++ column).toList = some column := by
  have htable : '.' ∉ "customers".toList := by decide
  have hword : ("customers." ++ column).toList = "customers".toList ++ '.' :: column.toList := by
    rw [String.toList_append]
    rfl
  rw [column?, hword, List.splitOn_append_cons_self_of_not_mem htable,
    List.splitOn_eq_singleton h.2.1]
  simp only [if_true, String.ofList_toList]

theorem comparator?_sql (c : Comparator) : comparator? c.sql.toList = some c := by
  cases c <;> decide

theorem placeholder?_text {name : String} (hname : ')' ∉ name.toList) (t : SqlType) :
    placeholder? ('%' :: '(' :: (name.toList ++ ')' :: 's' :: t.text.toList)) = some (name, t) := by
  have hcast : ')' ∉ 's' :: t.text.toList := by cases t <;> decide
  rw [placeholder?, List.splitOn_append_cons_self_of_not_mem hname,
    List.splitOn_eq_singleton hcast]
  simp only [SqlType.ofText?_text, Option.map_some, String.ofList_toList]

/-- The words of a comparison. -/
def comparisonWords (column : String) (c : Comparator) (name : String) (v : SqlValue) :
    List (List Char) :=
  ("customers." ++ column).toList :: c.sql.toList ::
    ('%' :: '(' :: (name.toList ++ ')' :: 's' :: v.type.text.toList)).splitOn ' '

/-- The pieces of a comparison, parted by blanks. -/
theorem toList_pieces (column sql name cast : String) :
    ("customers" ++ "." ++ column ++ " " ++ sql ++ " " ++ ("%(" ++ name ++ ")s" ++ cast)).toList =
      ("customers." ++ column).toList ++ ' ' :: (sql.toList ++
        ' ' :: '%' :: '(' :: (name.toList ++ ')' :: 's' :: cast.toList)) := by
  have htable : "customers.".toList = "customers".toList ++ ".".toList := by decide
  have hblank : " ".toList = [' '] := by decide
  have hopen : "%(".toList = ['%', '('] := by decide
  have hclose : ")s".toList = [')', 's'] := by decide
  simp only [String.toList_append, htable, hblank, hopen, hclose, List.append_assoc,
    List.cons_append, List.nil_append]

theorem splitOn_comparison {column : String} (h : IsName column) (c : Comparator) (name : String)
    (v : SqlValue) :
    (SqlCondition.compare (.column "customers" column) c (.parameter name v)).text.toList.splitOn
      ' ' = comparisonWords column c name v := by
  have hcolumn : ' ' ∉ ("customers." ++ column).toList := by
    rw [String.toList_append, List.mem_append, not_or]
    exact ⟨by decide, h.1⟩
  have hsql : ' ' ∉ c.sql.toList := by cases c <;> decide
  have htext : (SqlCondition.compare (.column "customers" column) c (.parameter name v)).text =
      "customers" ++ "." ++ column ++ " " ++ c.sql ++ " " ++ ("%(" ++ name ++ ")s" ++ v.cast) := rfl
  rw [htext, toList_pieces, SqlValue.cast_eq, List.splitOn_append_cons_self_of_not_mem hcolumn,
    List.splitOn_append_cons_self_of_not_mem hsql, comparisonWords]

/-- A comparison is read as it was written. -/
theorem read?_comparison {column name : String} (h : IsName column) (hname : ')' ∉ name.toList)
    (c : Comparator) (v : SqlValue) :
    read? (comparisonWords column c name v) = some (.compare column c name v.type) := by
  rw [comparisonWords, read?, List.intercalate_splitOn, column?_of_isName h, comparator?_sql,
    placeholder?_text hname]
  rfl

/-- No word of a comparison is taken for the end of the condition. -/
theorem and_not_mem_comparison {column name : String} (hname : ' ' ∉ name.toList) (c : Comparator)
    (v : SqlValue) : "AND".toList ∉ comparisonWords column c name v := by
  have hfirst : ∀ {w : List Char} {x : Char}, x ≠ 'A' → "AND".toList ≠ x :: w := by
    intro w x hx heq
    exact hx (List.cons.inj heq).1.symm
  have hcolumn : "AND".toList ≠ ("customers." ++ column).toList := by
    have htable : "customers.".toList = 'c' :: "ustomers.".toList := by decide
    rw [String.toList_append, htable, List.cons_append]
    exact hfirst (by decide)
  have hsql : "AND".toList ≠ c.sql.toList := by cases c <;> decide
  have hbody : ∀ cast : List Char, ' ' ∉ cast →
      ' ' ∉ '%' :: '(' :: (name.toList ++ ')' :: 's' :: cast) := by
    intro cast hcast
    simp only [List.mem_cons, List.mem_append, not_or, hname, hcast]
    decide
  rw [comparisonWords, List.mem_cons, List.mem_cons, not_or, not_or]
  refine ⟨hcolumn, hsql, ?_⟩
  cases htype : v.type with
  | timestamp =>
      -- The only type with more than one word.
      have htext : SqlType.timestamp.text.toList =
          "::TIMESTAMP".toList ++ ' ' :: "WITH TIME ZONE".toList := by decide
      have hsplit := List.splitOn_append_cons_self_of_not_mem
        (hbody "::TIMESTAMP".toList (by decide)) "WITH TIME ZONE".toList
      rw [htext]
      simp only [List.cons_append, List.append_assoc] at hsplit
      rw [hsplit, List.mem_cons, not_or]
      exact ⟨hfirst (by decide), by decide⟩
  | _ =>
      rw [List.splitOn_eq_singleton (hbody _ (by decide)), List.mem_singleton]
      exact hfirst (by decide)

end WhereTerm

/-! ## Several conditions -/

/-- What a condition on the customers is read as. -/
inductive SqlCondition.ReadAs : SqlCondition → WhereTerm → Prop
  | always : ReadAs .always (.constant true)
  | compare {column name : String} (hcolumn : WhereTerm.IsName column)
      (hname : WhereTerm.IsName name) (c : Comparator) (v : SqlValue) :
      ReadAs (.compare (.column "customers" column) c (.parameter name v))
        (.compare column c name v.type)

namespace SqlCondition

/-- The words of a condition. -/
def words (k : SqlCondition) : List (List Char) :=
  k.text.toList.splitOn ' '

variable {k : SqlCondition} {t : WhereTerm}

theorem ReadAs.read?_words (h : k.ReadAs t) : WhereTerm.read? k.words = some t := by
  cases h with
  | always => decide
  | compare hcolumn hname c v =>
      rw [words, WhereTerm.splitOn_comparison hcolumn]
      exact WhereTerm.read?_comparison hcolumn hname.2.2 c v

theorem ReadAs.and_not_mem_words (h : k.ReadAs t) : "AND".toList ∉ k.words := by
  cases h with
  | always => decide
  | compare hcolumn hname c v =>
      rw [words, WhereTerm.splitOn_comparison hcolumn]
      exact WhereTerm.and_not_mem_comparison hname.1 c v

theorem ReadAs.text_ne_nil (h : k.ReadAs t) : k.text.toList ≠ [] := by
  intro hempty
  have hread := h.read?_words
  rw [words, hempty] at hread
  cases hread

theorem ReadAs.parameter?_eq (h : k.ReadAs t) :
    t.parameter?.toList = k.parameters.map Prod.fst := by
  cases h <;> rfl

end SqlCondition

namespace Where

open SqlCondition

theorem conditionsText_cons_cons (k k' : SqlCondition) (rest : List SqlCondition) :
    (conditionsText (k :: k' :: rest)).toList =
      k.text.toList ++ ' ' :: ("AND".toList ++ ' ' :: (conditionsText (k' :: rest)).toList) := by
  have hand : " AND ".toList = ' ' :: ("AND".toList ++ [' ']) := by decide
  simp only [conditionsText, List.map_cons, String.toList_intercalate,
    List.intercalate_cons_cons, hand, List.append_assoc, List.cons_append, List.nil_append]

/-- The word between two conditions parts them, and no condition has that word. -/
theorem splitOn_conditionsText {k : SqlCondition} {ks : List SqlCondition} {t : WhereTerm}
    {ts : List WhereTerm} (hk : k.ReadAs t) (h : List.Forall₂ ReadAs ks ts) :
    ((conditionsText (k :: ks)).toList.splitOn ' ').splitOn "AND".toList =
      (k :: ks).map words := by
  induction h generalizing k t with
  | nil =>
      have htext : conditionsText [k] = k.text := String.intercalate_singleton
      rw [htext]
      exact List.splitOn_eq_singleton hk.and_not_mem_words
  | @cons k' t' ks ts hk' _ ih =>
      have hword : ' ' ∉ "AND".toList := by decide
      rw [conditionsText_cons_cons, List.splitOn_append_cons_self,
        List.splitOn_append_cons_self_of_not_mem hword, ← words,
        List.splitOn_append_cons_self_of_not_mem hk.and_not_mem_words, ih hk']
      rfl

/-- The conditions of a text are those it was made of. -/
theorem read?_conditionsText {ks : List SqlCondition} {ts : List WhereTerm}
    (h : List.Forall₂ ReadAs ks ts) : read? (conditionsText ks) = some ts := by
  have hmap : ∀ {ks : List SqlCondition} {ts : List WhereTerm}, List.Forall₂ ReadAs ks ts →
      (ks.map words).mapM WhereTerm.read? = some ts := by
    intro ks ts h
    induction h with
    | nil => rfl
    | cons hk _ ih =>
        rw [List.map_cons, List.mapM_cons, hk.read?_words, ih]
        rfl
  cases h with
  | nil => rfl
  | @cons k t ks ts hk hks =>
      have hne : (conditionsText (k :: ks)).toList ≠ [] := by
        cases ks with
        | nil =>
            have htext : conditionsText [k] = k.text := String.intercalate_singleton
            rw [htext]
            exact hk.text_ne_nil
        | cons k' rest =>
            rw [conditionsText_cons_cons]
            exact List.append_ne_nil_of_right_ne_nil _ (List.cons_ne_nil _ _)
      rw [read?, if_neg hne, splitOn_conditionsText hk hks]
      exact hmap (.cons hk hks)

end Where

/-! ## Parameters -/

/-- The parameters of some conditions, in their order. -/
def parametersOf (ks : List SqlCondition) : List (String × SqlValue) :=
  ks.flatMap SqlCondition.parameters

theorem parametersOf_numbered_compare (before rest : List ClauseTerm) (column : String)
    (c : Comparator) (v : Operand) :
    parametersOf (numbered before (.compare column c v :: rest)) =
      (parameterName column (occurrences column before + 1), v.sqlValue) ::
        parametersOf (numbered (before ++ [.compare column c v]) rest) := rfl

/-- The names of numbered terms go on counting where the terms before them
    stopped. -/
theorem mem_names_numbered {name : String} : ∀ {before ts : List ClauseTerm},
    name ∈ (parametersOf (numbered before ts)).map Prod.fst →
      ∃ column number, name = parameterName column number ∧ occurrences column before < number := by
  intro before ts
  induction ts generalizing before with
  | nil => exact nofun
  | cons t rest ih =>
      intro hmem
      cases t with
      | compare column c v =>
          rcases List.mem_cons.1 hmem with rfl | hmem
          · exact ⟨column, _, rfl, Nat.lt_succ_self _⟩
          · rcases ih hmem with ⟨column', number, hname, hnumber⟩
            refine ⟨column', number, hname, ?_⟩
            rw [occurrences, List.countP_append] at hnumber
            exact Nat.lt_of_le_of_lt (Nat.le_add_right _ _) hnumber
      | _ =>
          rcases ih hmem with ⟨column', number, hname, hnumber⟩
          refine ⟨column', number, hname, ?_⟩
          rw [occurrences, List.countP_append] at hnumber
          exact Nat.lt_of_le_of_lt (Nat.le_add_right _ _) hnumber

/-- No two parameters share a name. -/
theorem nodup_names_numbered : ∀ before ts : List ClauseTerm,
    ((parametersOf (numbered before ts)).map Prod.fst).Nodup := by
  intro before ts
  induction ts generalizing before with
  | nil => exact List.nodup_nil
  | cons t rest ih =>
      cases t with
      | compare column c v =>
          refine List.nodup_cons.2 ⟨fun hmem => ?_, ih _⟩
          rcases mem_names_numbered hmem with ⟨column', number, hname, hnumber⟩
          -- A later parameter of the same column has a greater number.
          rcases parameterName_inj hname with ⟨rfl, rfl⟩
          rw [occurrences, List.countP_append, ← occurrences] at hnumber
          simp at hnumber
      | _ => exact ih _

/-- A placeholder stands for its own value if no parameter shares its name. -/
theorem Where.bound?_of_mem {params : List (String × SqlValue)} {name : String} {v : SqlValue}
    (hnames : (params.map Prod.fst).Nodup) (hmem : (name, v) ∈ params)
    (hv : v.type.admits v = true) : bound? params name v.type = some v := by
  have hfilter : params.filter (fun p => p.1 = name) = [(name, v)] := by
    induction params with
    | nil => exact absurd hmem List.not_mem_nil
    | cons p rest ih =>
        rcases List.nodup_cons.1 hnames with ⟨hfresh, hrest⟩
        rcases List.mem_cons.1 hmem with rfl | hmem
        · have hnone : rest.filter (fun p => p.1 = name) = [] := by
            rw [List.filter_eq_nil_iff]
            intro q hq hname
            exact hfresh (List.mem_map.2 ⟨q, hq, of_decide_eq_true hname⟩)
          simp only [List.filter_cons, hnone, decide_true, if_true]
        · have hname : p.1 ≠ name := by
            rintro rfl
            exact hfresh (List.mem_map.2 ⟨_, hmem, rfl⟩)
          rw [List.filter_cons_of_neg (by simpa using hname)]
          exact ih hrest hmem
  rw [bound?, hfilter]
  exact if_pos hv

/-! ## The text of a predicate -/

namespace Comparison

variable {x : Comparison}

theorem Suitable.isName (h : x.Suitable) : WhereTerm.IsName x.column := by
  rcases h with ⟨a, hcolumn, hvalue⟩
  have hnames : ∀ a ∈ Attribute.selecting, ∀ column ∈ a.column?, WhereTerm.IsName column := by
    decide
  exact hnames a hvalue.mem_selecting x.column hcolumn

/-- The cast of a value that can be compared with a column admits the value. -/
theorem Suitable.admits (h : x.Suitable) :
    x.value.sqlValue.type.admits x.value.sqlValue = true := by
  rcases h with ⟨a, -, hvalue⟩
  cases hv : x.value with
  | double y => rfl
  | time t => rfl
  | int n =>
      rw [hv] at hvalue
      have hn : -2 ^ 31 ≤ n ∧ n < 2 ^ 31 := by
        cases a <;> first | exact hvalue | exact hvalue.elim
      change (decide (-2 ^ 31 ≤ n) && decide (n < 2 ^ 31)) = true
      rw [decide_eq_true hn.1, decide_eq_true hn.2]
      rfl

end Comparison

theorem WhereTerm.isName_parameterName {column : String} (h : IsName column) (number : Nat) :
    IsName (parameterName column number) := by
  have hmem : ∀ {x : Char}, x.isDigit = false → x ≠ '_' → x ∉ column.toList →
      x ∉ (parameterName column number).toList := by
    intro x hdigit hline hx
    rw [toList_parameterName, List.mem_append, List.mem_cons, not_or, not_or]
    exact ⟨hx, hline, not_mem_toDigits hdigit number⟩
  exact ⟨hmem (by decide) (by decide) h.1, hmem (by decide) (by decide) h.2.1,
    hmem (by decide) (by decide) h.2.2⟩

/-- What numbered terms are read as. Every placeholder gets the value of its own
    comparison, and all of them together say whether the terms hold. -/
theorem exists_read_numbered {params : List (String × SqlValue)}
    (hnames : (params.map Prod.fst).Nodup) (row : String → SqlValue) (now : Timestamp) :
    ∀ {ts : List ClauseTerm} (before : List ClauseTerm), ClauseTerm.never ∉ ts →
      (∀ x ∈ ts.filterMap ClauseTerm.comparison?, x.Suitable) →
      (∀ p ∈ parametersOf (numbered before ts), p ∈ params) →
      ∃ terms, List.Forall₂ SqlCondition.ReadAs (numbered before ts) terms ∧
        terms.filterMap (Where.compared? params) = (ts.filterMap ClauseTerm.comparison?).map
          (fun x => (x.column, x.comparator, x.value.sqlValue)) ∧
        terms.mapM (Where.termHolds? params row) =
          some ((numbered before ts).map fun k => k.holds row now) := by
  intro ts
  induction ts with
  | nil => exact fun _ _ _ _ => ⟨[], .nil, rfl, rfl⟩
  | cons t rest ih =>
      intro before hnever hsuitable hparams
      have hrest : ClauseTerm.never ∉ rest := fun hmem => hnever (List.mem_cons_of_mem t hmem)
      cases t with
      | never => exact absurd List.mem_cons_self hnever
      | always =>
          rcases ih (before ++ [.always]) hrest hsuitable hparams with
            ⟨terms, hread, hcompared, hholds⟩
          refine ⟨.constant true :: terms, .cons .always hread, hcompared, ?_⟩
          rw [List.mapM_cons, hholds]
          rfl
      | compare column c v =>
          have hx : (⟨column, c, v⟩ : Comparison).Suitable := hsuitable _ List.mem_cons_self
          rw [parametersOf_numbered_compare] at hparams
          rcases ih (before ++ [.compare column c v]) hrest
              (fun x hmem => hsuitable x (List.mem_cons_of_mem _ hmem))
              (fun p hmem => hparams p (List.mem_cons_of_mem _ hmem)) with
            ⟨terms, hread, hcompared, hholds⟩
          have hbound := Where.bound?_of_mem hnames (hparams _ List.mem_cons_self) hx.admits
          have hname : WhereTerm.IsName (parameterName column (occurrences column before + 1)) :=
            WhereTerm.isName_parameterName hx.isName _
          refine ⟨.compare column c _ v.sqlValue.type :: terms,
            .cons (.compare hx.isName hname c v.sqlValue) hread, ?_, ?_⟩
          · have hhead : Where.compared? params (.compare column c
                (parameterName column (occurrences column before + 1)) v.sqlValue.type) =
                  some (column, c, v.sqlValue) := by
              rw [Where.compared?, hbound]
              rfl
            rw [List.filterMap_cons_some hhead, hcompared]
            rfl
          · rw [List.mapM_cons, hholds, Where.termHolds?, hbound]
            rfl

/-- The placeholders of a text are the names of its parameters. -/
theorem filterMap_parameter? {ks : List SqlCondition} {terms : List WhereTerm}
    (h : List.Forall₂ SqlCondition.ReadAs ks terms) :
    terms.filterMap WhereTerm.parameter? = (parametersOf ks).map Prod.fst := by
  induction h with
  | nil => rfl
  | @cons k t ks terms hk _ ih =>
      rw [List.filterMap_cons, parametersOf, List.flatMap_cons, List.map_append,
        ← hk.parameter?_eq, ← parametersOf, ← ih]
      cases t.parameter? <;> rfl

/-- The text of a predicate selects whom the predicate matches. A predicate has a
    text with parameters, the text can be read, and it holds of a row just if the
    predicate matches the customer. Its placeholders are the names of the
    parameters, no two of which are the same, and the comparisons that are read
    are those of the predicate, each with its own value. -/
theorem Predicate.where_selects {p : Predicate} (hp : p.Portable) {row : CustomerRow}
    {c : Customer} (h : row.Shows c) :
    ∃ text params terms, p.where = .ok (text, params) ∧ Where.read? text = some terms ∧
      (∃ truth, p.matches c = .ok truth ∧
        Where.holds? params (SqlRow.column row) text = some truth) ∧
      terms.filterMap WhereTerm.parameter? = params.map Prod.fst ∧
      (params.map Prod.fst).Nodup ∧
      terms.filterMap (Where.compared? params) =
        p.comparisons.map (fun x => (x.column, x.comparator, x.value.sqlValue)) := by
  rcases p.exists_clause hp with ⟨k, hk, hmade⟩
  have hnames := nodup_names_numbered [] k.toTerms
  have hsuitable : ∀ x ∈ k.toTerms.filterMap ClauseTerm.comparison?, x.Suitable := by
    rw [hmade.comparisons]
    exact p.suitable_comparisons hp
  rcases exists_read_numbered hnames (SqlRow.column row) default [] hmade.possible hsuitable
    (fun _ hmem => hmem) with ⟨terms, hread, hcompared, hholds⟩
  have hwhere : p.where = .ok (conditionsText k.conditions, parametersOf k.conditions) := by
    have hprintable : k.printable = .ok k.conditions := by
      cases k with
      | unequal => exact absurd rfl hmade.printable
      | _ => rfl
    simp only [Predicate.where, hk, hprintable, bind, Except.bind, parametersOf]
  have hterms := Where.read?_conditionsText hread
  refine ⟨_, _, terms, hwhere, hterms, ⟨_, p.matches_eq_all h hp, ?_⟩,
    filterMap_parameter? hread, hnames, hmade.comparisons ▸ hcompared⟩
  have hall := Clause.all_conditions hmade (SqlRow.column row) default
  unfold Where.holds? Clause.conditions
  simp only [hterms, hholds, ← hall, Clause.conditions, Option.bind_eq_bind, Option.bind_some,
    List.all_map]
  rfl

/-- Conjunctions inside each other, some of them empty, with two conditions on the
    visits, and the row of a customer who satisfies them all. -/
theorem Predicate.where_selects_sample :
    let p : Predicate := .and [.and [], .compare .visits .gt (.int 2),
      .and [.all, .compare .visits .le (.int 9), .and [.and []]],
      .compare .totalSpends .ge (.double (Double.ofInt 5)),
      .compare .lastVisit .lt (.time ⟨⟨2024, 6, 1⟩, 0, some 0⟩)]
    let c : Customer := { (default : Customer) with
      totalSpends := Double.ofInt 7, visits := 3, lastVisit := ⟨⟨2024, 4, 22⟩, 0, some 0⟩ }
    let row := Database.customerRow c c.lastVisit
    (p.Portable ∧ row.Shows c) ∧ ∃ text params terms,
      p.where = .ok (text, params) ∧ Where.read? text = some terms ∧
        Where.holds? params (SqlRow.column row) text = some true ∧
        (params.map Prod.fst).Nodup ∧ terms.filterMap (Where.compared? params) =
          [("visits", .gt, .int 2), ("visits", .le, .int 9),
            ("total_spends", .ge, .double (Double.ofInt 5)),
            ("last_visit", .lt, .time ⟨⟨2024, 6, 1⟩, 0, some 0⟩)] := by
  intro p c row
  have hfew : (Operand.int 2).Suits .visits := ⟨by decide, by decide⟩
  have hmany : (Operand.int 9).Suits .visits := ⟨by decide, by decide⟩
  have hspend : (Operand.double (Double.ofInt 5)).Suits .totalSpends := rfl
  have hp : p.Portable := ⟨trivial, hfew, ⟨trivial, hmany, ⟨trivial, trivial⟩, trivial⟩, hspend,
    rfl, trivial⟩
  have hspends : row.customer.totalSpends = c.totalSpends := by decide +kernel
  have hrow : row.Shows c := ⟨hspends, rfl, (Int.sub_zero _).symm, rfl, rfl⟩
  rcases where_selects hp hrow with
    ⟨text, params, terms, hwhere, hread, ⟨truth, htruth, hholds⟩, -, hnames, hcompared⟩
  have hall : p.comparisons.all (Comparison.holds (SqlRow.column row)) = true := by decide +kernel
  have hmatches := p.matches_eq_all hrow hp
  rw [htruth, hall] at hmatches
  cases hmatches
  exact ⟨⟨hp, hrow⟩, text, params, terms, hwhere, hread, hholds, hnames, hcompared⟩

end Outreach
