import Outreach.Sql.Expr

/-!
# Predicates as Conditions

A predicate becomes the conditions of a `WHERE` clause on the customers. The
terms of nested conjunctions are joined without parentheses. The condition
that always holds is left out beside other terms; a conjunction that consists
of nothing else keeps it, and it then stays in any further conjunction.

A row can also be asked for what it is, which is no column. It cannot be
ordered and equals no value, so a comparison with it never holds. Such a
comparison takes the place of the whole conjunction around it, and it has no
text of its own.

The parameters of each column are numbered from one, from left to right.

## Main definitions

* `Clause`: A clause on its way.
* `Predicate.clause`: The clause of a predicate.
* `Clause.conditions`: The numbered conditions of a clause.
* `Clause.printable`: The conditions of a clause that has a text.
-/

namespace Outreach

/-- A term of a clause: the condition that always holds, the one that never
    does, or a comparison of a column. -/
inductive ClauseTerm
  | always
  | never
  | compare (column : String) (comparator : Comparator) (value : Operand)
  deriving DecidableEq, Inhabited

/-- A clause on its way. -/
inductive Clause
  /-- The bare condition that always holds. -/
  | always
  /-- A bare comparison with what is no column. -/
  | unequal
  /-- Terms that must all hold. -/
  | terms (ts : List ClauseTerm)
  deriving DecidableEq, Inhabited

namespace Clause

/-- The terms of a clause. -/
def toTerms : Clause → List ClauseTerm
  | always => [.always]
  | unequal => [.never]
  | terms ts => ts

/-- The bare condition that always holds. -/
def isAlways : Clause → Bool
  | always => true
  | _ => false

/-- The clauses with a term that never holds. -/
def isNever (c : Clause) : Bool :=
  c.toTerms.contains .never

/-- The conjunction of clauses. -/
def conjunction (cs : List Clause) : Clause :=
  let rest := cs.filter fun c => !c.isAlways
  -- A term that never holds swallows the others, with their parameters.
  if cs.any isNever then .terms [.never]
  else if rest.isEmpty && !cs.isEmpty then .terms [.always]
  else .terms (rest.flatMap toTerms)

end Clause

/-- The column of the table of customers that an attribute is kept in. -/
def Attribute.column? : Attribute → Option String
  | .other _ => none
  | a => a.text.string?

/-- The names of what a row is, apart from its columns. -/
def rowNames : List String := ["metadata", "registry", "mro"]

/-- The words whose reserved names a row answers to, beside the common ones. -/
def rowWords : List String :=
  ["mapper", "table", "tablename", "table_args", "name", "qualname", "mro", "bases", "base",
    "subclasses"]

/-- The clause of a comparison with what is no column. -/
def foreignClause (a : Attribute) (comparator : Comparator) : Except Fault Clause :=
  if a.isAmong rowNames rowWords then
    if comparator = .eq then .ok .unequal else .error .wrongType
  else .error .noAttribute

mutual

/-- The clause of a predicate. -/
def Predicate.clause : Predicate → Except Fault Clause
  | .all => .ok .always
  | .compare subject comparator value =>
    match subject.column? with
    | some column => .ok (.terms [.compare column comparator value])
    | none => foreignClause subject comparator
  | .and terms => do
    let cs ← Predicate.clauses terms
    .ok (.conjunction cs)
  | .unsupported => .error .wrongType

/-- The clauses of some predicates. -/
def Predicate.clauses : List Predicate → Except Fault (List Clause)
  | [] => .ok []
  | p :: rest => do
    let c ← Predicate.clause p
    let cs ← Predicate.clauses rest
    .ok (c :: cs)

end

/-- The value of an operand as a parameter. -/
def Operand.sqlValue : Operand → SqlValue
  | .int n => .int n
  | .double x => .double x
  | .time t => .time t

/-- How often a column occurs in some terms. -/
def occurrences (column : String) (ts : List ClauseTerm) : Nat :=
  ts.countP fun t =>
    match t with
    | .always | .never => false
    | .compare c _ _ => c = column

/-- The conditions of terms, given the terms before them. -/
def numbered (before : List ClauseTerm) : List ClauseTerm → List SqlCondition
  | [] => []
  | .always :: rest => .always :: numbered (before ++ [.always]) rest
  | .never :: rest => .never :: numbered (before ++ [.never]) rest
  | .compare column comparator value :: rest =>
    -- The number depends on the same column only, not on the place in the clause.
    let name := column ++ "_" ++ toString (occurrences column before + 1)
    .compare (.column "customers" column) comparator (.parameter name value.sqlValue) ::
      numbered (before ++ [.compare column comparator value]) rest

/-- The numbered conditions of a clause. -/
def Clause.conditions (c : Clause) : List SqlCondition :=
  numbered [] c.toTerms

/-- The conditions of a clause that has a text. -/
def Clause.printable : Clause → Except Fault (List SqlCondition)
  | .unequal => .error .noAttribute
  | c => .ok c.conditions

end Outreach
