import Outreach.Input.Issue
import Outreach.Json.Decode
import Outreach.Json.Writer

/-!
# Rendering Documents

A document travels as UTF-8 and follows the standard, so there are values that
it cannot hold: a text with a lone half of a surrogate pair, and a number that
is not finite.

## Main definitions

* `Text.encodingFlaw?`: Why a text cannot be encoded.
* `Json.encodingFlaw?`: Why a document cannot be encoded.
* `Json.isStandard`: The documents without numbers that are not finite.
* `Json.rendered`: The text of a document as it travels.
* `Issue.report`: An issue with the value that it is about.
-/

namespace Outreach

/-- Why a text cannot be encoded: its first run of lone halves. -/
def Text.encodingFlaw? (t : Text) : Option String :=
  match t.encode with
  | .error place => some place.message
  | .ok _ => none

namespace Json

/-- Why a document cannot be encoded: the first of its texts that cannot. -/
def encodingFlaw? : Json → Option String
  | .text t => t.encodingFlaw?
  | .list items => itemsFlaw? items
  | .object members => membersFlaw? members
  | _ => none
where
  /-- The first of some items that cannot be encoded. -/
  itemsFlaw? : List Json → Option String
    | [] => none
    | v :: rest => v.encodingFlaw?.or (itemsFlaw? rest)
  /-- The first of some members that cannot be encoded. -/
  membersFlaw? : List (Text × Json) → Option String
    | [] => none
    | (name, v) :: rest => (name.encodingFlaw?.or v.encodingFlaw?).or (membersFlaw? rest)

/-- The documents without numbers that are not finite. -/
def isStandard : Json → Bool
  | .double x => x.isFinite
  | .list items => areStandard items
  | .object members => haveStandard members
  | _ => true
where
  /-- Items without numbers that are not finite. -/
  areStandard : List Json → Bool
    | [] => true
    | v :: rest => v.isStandard && areStandard rest
  /-- Members without numbers that are not finite. -/
  haveStandard : List (Text × Json) → Bool
    | [] => true
    | (_, v) :: rest => v.isStandard && haveStandard rest

/-- A point of a text as it travels: only quotes, backslashes and control
    characters are escaped. -/
def renderedPoint (p : Point) : List Point :=
  match p with
  | .half _ => [p]
  | .char c =>
    if 0x7E < c.toNat then [p] else (escapedPoint p).map .char

/-- A text as it travels. -/
def renderedText (t : Text) : List Point :=
  .char '"' :: (t.points.flatMap renderedPoint ++ [.char '"'])

/-- Parts with a comma between them. -/
def commas : List (List Point) → List Point
  | [] => []
  | [part] => part
  | part :: rest => part ++ .char ',' :: commas rest

/-- The points of a document as it travels. -/
def renderedPoints : Json → List Point
  | .text t => renderedText t
  | .list items => .char '[' :: (commas (ofItems items) ++ [.char ']'])
  | .object members => .char '\x7b' :: (commas (ofMembers members) ++ [.char '\x7d'])
  | .null => (writeChars tight .null).map .char
  | .bool b => (writeChars tight (.bool b)).map .char
  | .int n => (writeChars tight (.int n)).map .char
  | .double x => (writeChars tight (.double x)).map .char
where
  /-- The items of a list. -/
  ofItems : List Json → List (List Point)
    | [] => []
    | v :: rest => v.renderedPoints :: ofItems rest
  /-- The members of an object. -/
  ofMembers : List (Text × Json) → List (List Point)
    | [] => []
    | (name, v) :: rest =>
      (renderedText name ++ .char ':' :: v.renderedPoints) :: ofMembers rest

/-- The text of a document as it travels. -/
def rendered (v : Json) : Text :=
  ⟨v.renderedPoints⟩

/-- What a path leads to inside a value, as far as it can be followed. -/
def follow (v : Json) : List PathStep → Json
  | [] => v
  | .member name :: rest =>
    match v.member? name with
    | some w => w.follow rest
    | none => v
  | .item i :: rest =>
    match v with
    | .list items =>
      match items[i]? with
      | some w => w.follow rest
      | none => v
    | _ => v

end Json

/-- An issue with the value that it is about, inside a whole input, and what the
    value is measured against. -/
def Issue.report (input : Json) (i : Issue) : Json :=
  let measure : List (Text × Json) :=
    match i.kind.measure? with
    | some (name, bound) => [("ctx", .record [(name, bound)])]
    | none => []
  .object (i.toJson.asMembers ++ (("input" : Text), input.follow i.path) :: measure)

end Outreach
