import Outreach.Fault

/-!
# Patterns of Paths

A pattern is a path with holes, written as a name in braces. A hole takes one
step of a path unless a kind of hole behind a colon says otherwise, and no two
holes have one name. The earlier holes of a path take as much as they can. One
line break at the end of a path is passed over.

## Main definitions

* `Hole`: The kinds of holes.
* `Pattern`: A path with holes.
* `Pattern.ofString`: The pattern that a text denotes.
* `Pattern.match?`: What the holes of a pattern take of a path.
-/

namespace Outreach

namespace Api

/-- A kind of hole. -/
inductive Hole
  /-- One step of a path. -/
  | step
  /-- Any number of steps. -/
  | steps
  | whole
  | decimal
  | identifier
  deriving DecidableEq, Inhabited

namespace Hole

/-- The kinds by name. -/
def ofName? (name : String) : Option Hole :=
  [("str", step), ("path", steps), ("int", whole), ("float", decimal),
    ("uuid", identifier)].lookup name

/-- Whether a list consists of at least one decimal digit. -/
def areDigits (cs : List Char) : Bool :=
  !cs.isEmpty && cs.all Char.isDigit

/-- Whether a list consists of a number of hexadecimal digits. -/
def areHexDigits (cs : List Char) (n : Nat) : Bool :=
  cs.length == n && cs.all fun c =>
    c.isDigit || (decide ('a' ≤ c) && decide (c ≤ 'f')) || (decide ('A' ≤ c) && decide (c ≤ 'F'))

/-- Whether a list consists of groups of hexadecimal digits, with or without a
    hyphen between each two. -/
def areGroups : List Nat → List Char → Bool
  | [], cs => cs.isEmpty
  | n :: rest, cs =>
    areHexDigits (cs.take n) n &&
      (match cs.drop n with
      | '-' :: more => areGroups rest more && !rest.isEmpty
      | more => areGroups rest more)

/-- Whether a hole can take some characters. -/
def takes (h : Hole) (cs : List Char) : Bool :=
  match h with
  | step => !cs.isEmpty && !cs.contains '/'
  | steps => !cs.contains '\n'
  | whole => areDigits cs
  | decimal =>
    areDigits (cs.takeWhile (· != '.')) &&
      (!cs.contains '.' || areDigits ((cs.dropWhile (· != '.')).drop 1))
  | identifier => areGroups [8, 4, 4, 4, 12] cs

end Hole

/-- A part of a pattern. -/
inductive PatternPart
  | fixed (c : Char)
  | hole (name : String) (h : Hole)
  deriving DecidableEq, Inhabited

/-- A path with holes. -/
abbrev Pattern := List PatternPart

namespace Pattern

/-- Whether a list is a name. -/
def isName (cs : List Char) : Bool :=
  match cs with
  | [] => false
  | c :: rest => (c.isAlpha || c == '_') && rest.all fun d => d.isAlphanum || d == '_'

/-- The name of a hole and that of its kind, given what stands between its
    braces. -/
def holeNames? (cs : List Char) : Option (String × String) :=
  let name := cs.takeWhile (· != ':')
  if !isName name then none
  else
    match cs.drop name.length with
    | [] => some (String.ofList name, "str")
    | _ :: kind =>
      if isName kind then some (String.ofList name, String.ofList kind) else none

/-- The pattern of some characters. Braces around something else than a hole
    stand for themselves. -/
def ofChars : List Char → Except Fault Pattern
  | [] => .ok []
  | c :: rest => do
    let inside := rest.takeWhile (· != '\x7d')
    let isClosed := decide (inside.length < rest.length)
    match if c == '\x7b' && isClosed then holeNames? inside else none with
    | none => return .fixed c :: (← ofChars rest)
    | some (name, kind) =>
      match Hole.ofName? kind with
      | some h => return .hole name h :: (← ofChars (rest.drop (inside.length + 1)))
      | none =>
        throw (.foreign "AssertionError" ("Unknown path convertor '" ++ kind ++ "'"))
termination_by cs => cs.length
decreasing_by
  all_goals simp only [List.length_drop, List.length_cons]; omega

/-- The names of the holes of a pattern. -/
def names (p : Pattern) : List String :=
  p.filterMap fun part =>
    match part with
    | .hole name _ => some name
    | .fixed _ => none

/-- The names that several holes of a pattern have, in order. -/
def repeatedNames (p : Pattern) : List String :=
  (p.names.filter fun name => decide (1 < p.names.count name)).eraseDups.mergeSort

/-- The pattern that a text denotes. Its holes must have different names. -/
def ofString (s : String) : Except Fault Pattern := do
  let p ← ofChars s.toList
  match p.repeatedNames with
  | [] => return p
  | names =>
    let noun := if names.length = 1 then "name " else "names "
    throw (.foreign "ValueError"
      ("Duplicated param " ++ noun ++ ", ".intercalate names ++ " at path " ++ s))

/-- The longest start of a list that a hole can take and behind which the rest
    can be matched, among those of at most a given length. -/
def fill {α : Type} (h : Hole) (rest : List Char → Option (List α)) (take : List Char → α)
    (cs : List Char) : Nat → Option (List α)
  | 0 => if h.takes [] then (rest cs).map (take [] :: ·) else none
  | n + 1 =>
    let start := cs.take (n + 1)
    let found := if h.takes start then (rest (cs.drop (n + 1))).map (take start :: ·) else none
    found.or (fill h rest take cs n)

/-- What the holes of a pattern take of a path. -/
def match? : Pattern → List Char → Option (List String)
  | [], cs => if cs == [] || cs == ['\n'] then some [] else none
  | .fixed c :: ps, d :: rest => if c == d then match? ps rest else none
  | .fixed _ :: _, [] => none
  | .hole _ h :: ps, cs => fill h (match? ps) String.ofList cs cs.length

end Pattern

end Api

end Outreach
