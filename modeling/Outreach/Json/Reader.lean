import Outreach.Json.Basic
import Outreach.Number.Literal

/-!
# Reading JSON

The reader of JSON documents. Beyond the standard it reads the words `NaN`,
`Infinity` and `-Infinity`. A name that occurs twice in an object keeps the
place of its first and the value of its last occurrence. Numbers with a
fraction or an exponent become doubles; integers have at most
`wholeDigitLimit` digits. How deep lists and objects may stand inside each
other is up to the caller.

A refusal carries the position at which reading stopped, in characters from
the start of the document.

## Main definitions

* `Json.Refusal`: Why a document is refused.
* `Json.readText`: The reader of texts in quotes.
* `Json.readNumber?`: The reader of numbers.
* `Json.readValue`: The reader of values.
* `Json.readChars`, `Json.read`: The readers of documents.
-/

namespace Outreach

namespace Json

/-- Why a document is refused. -/
inductive Refusal
  /-- Something else was expected at this position. -/
  | malformed (position : Nat)
  /-- An integer has too many digits. -/
  | tooManyDigits
  /-- Lists and objects are nested too deeply. -/
  | tooDeep
  deriving DecidableEq

/-- What is left to read, with its position in the document. -/
structure Input where
  position : Nat
  rest : List Char

/-- The input behind a number of characters. -/
def Input.drop (inp : Input) (n : Nat) : Input :=
  ⟨inp.position + n, inp.rest.drop n⟩

/-- White space between tokens. -/
def isGap (c : Char) : Bool :=
  c == ' ' || c == '\t' || c == '\n' || c == '\r'

/-- The input behind the white space at its start. -/
def skipGaps (position : Nat) : List Char → Input
  | [] => ⟨position, []⟩
  | c :: rest => if isGap c then skipGaps (position + 1) rest else ⟨position, c :: rest⟩

/-- The input behind the white space at its start. -/
def Input.skip (inp : Input) : Input :=
  skipGaps inp.position inp.rest

/-- The number that four hexadecimal digits denote. -/
def readHex4? (cs : List Char) : Option Nat :=
  match cs with
  | [a, b, c, d] =>
    [a, b, c, d].foldlM (fun n c =>
      let k := c.toNat
      if 0x30 ≤ k ∧ k ≤ 0x39 then some (16 * n + (k - 0x30))
      else if 0x61 ≤ k ∧ k ≤ 0x66 then some (16 * n + (k - 0x57))
      else if 0x41 ≤ k ∧ k ≤ 0x46 then some (16 * n + (k - 0x37))
      else none) 0
  | _ => none

/-- The character of an escape of one letter. -/
def escaped? : Char → Option Char
  | '"' => some '"'
  | '\\' => some '\\'
  | '/' => some '/'
  | 'b' => some '\x08'
  | 'f' => some '\x0c'
  | 'n' => some '\n'
  | 'r' => some '\r'
  | 't' => some '\t'
  | _ => none

def isHighHalf (n : Nat) : Bool := decide (0xD800 ≤ n) && decide (n < 0xDC00)

def isLowHalf (n : Nat) : Bool := decide (0xDC00 ≤ n) && decide (n < 0xE000)

/-- The second half of a surrogate pair at the start of a list, if one is
    written there and more follows it. -/
def lowHalf? (cs : List Char) : Option Nat :=
  match cs with
  | '\\' :: 'u' :: rest =>
    if rest.length < 5 then none
    else (readHex4? (rest.take 4)).bind fun n => if isLowHalf n then some n else none
  | _ => none

/-- An escape by code behind `\u`: the point and how many characters it takes.
    At least one more character must follow the digits. -/
def readCode (position : Nat) (cs : List Char) : Except Refusal (Point × Nat) :=
  if cs.length < 5 then .error (.malformed position)
  else
    match readHex4? (cs.take 4) with
    | none => .error (.malformed position)
    | some n =>
      if isHighHalf n then
        match lowHalf? (cs.drop 4) with
        | some low =>
          .ok (.char (Char.ofNat (0x10000 + (n - 0xD800) * 0x400 + (low - 0xDC00))), 10)
        | none => .ok (Point.ofCode n, 4)
      else .ok (Point.ofCode n, 4)

/-- The points of a text up to its closing quote, and what follows. `opening`
    is the position of the opening quote. -/
def readText (opening position : Nat) (acc : List Point) (cs : List Char) :
    Except Refusal (Text × Input) :=
  match cs with
  | [] => .error (.malformed opening)
  | '"' :: rest => .ok (⟨acc.reverse⟩, ⟨position + 1, rest⟩)
  -- An unfinished text is refused at its opening quote, not where it breaks off.
  | ['\\'] => .error (.malformed opening)
  | '\\' :: 'u' :: rest =>
    match readCode (position + 1) rest with
    | .error e => .error e
    | .ok (point, width) =>
      readText opening (position + 2 + width) (point :: acc) (rest.drop width)
  | '\\' :: c :: rest =>
    match escaped? c with
    | some e => readText opening (position + 2) (.char e :: acc) rest
    | none => .error (.malformed position)
  | c :: rest =>
    -- Control characters only stand in a text as escapes.
    if c.toNat < 0x20 then .error (.malformed position)
    else readText opening (position + 1) (.char c :: acc) rest
termination_by cs.length
decreasing_by all_goals simp <;> omega

def isDigit (c : Char) : Bool := decide (0x30 ≤ c.toNat) && decide (c.toNat ≤ 0x39)

/-- The characters of the integer part of a number. -/
def scanWhole? (cs : List Char) : Option (List Char × List Char) :=
  match cs with
  -- A leading zero is the whole integer part, so `01` is read as `0`.
  | '0' :: rest => some (['0'], rest)
  | c :: _ => if isDigit c then some (cs.takeWhile isDigit, cs.dropWhile isDigit) else none
  | [] => none

/-- The characters of a fraction: a point and at least one digit. -/
def scanFraction (cs : List Char) : List Char × List Char :=
  match cs with
  | '.' :: c :: rest =>
    if isDigit c then ('.' :: (c :: rest).takeWhile isDigit, (c :: rest).dropWhile isDigit)
    else ([], cs)
  | _ => ([], cs)

/-- The characters of an exponent: its letter, an optional sign and at least
    one digit. -/
def scanExponent (cs : List Char) : List Char × List Char :=
  match cs with
  | e :: rest =>
    if e == 'e' || e == 'E' then
      let (sign, body) :=
        match rest with
        | c :: more => if c == '+' || c == '-' then ([c], more) else ([], rest)
        | [] => ([], [])
      match body.takeWhile isDigit with
      -- Without digits the letter does not belong to the number.
      | [] => ([], cs)
      | ds => (e :: (sign ++ ds), body.dropWhile isDigit)
    else ([], cs)
  | [] => ([], [])

/-- A number at the start of a list: its value and its characters. -/
def readNumber? (cs : List Char) : Option (Except Refusal Json × Nat) := do
  let (sign, body) :=
    match cs with
    | '-' :: rest => (['-'], rest)
    | _ => ([], cs)
  let (whole, rest) ← scanWhole? body
  let (fraction, rest) := scanFraction rest
  let (exponent, _) := scanExponent rest
  let literal := sign ++ whole ++ fraction ++ exponent
  let value :=
    -- Only a literal without fraction and exponent is an integer.
    if fraction.isEmpty && exponent.isEmpty then
      match readWhole literal with
      | .ok n => .ok (.int n)
      | .error _ => .error .tooManyDigits
    else
      match readDecimal? literal with
      | some x => .ok (.double x.toDouble)
      | none => .error .tooManyDigits
  some (value, literal.length)

/-- The words that stand for values. -/
def words : List (List Char × Json) :=
  [("null".toList, .null), ("true".toList, .bool true), ("false".toList, .bool false),
    ("NaN".toList, .double .nan), ("Infinity".toList, .double (.infinity false)),
    ("-Infinity".toList, .double (.infinity true))]

/-- A word at the start of a list. -/
def readWord? (cs : List Char) : Option (Json × Nat) :=
  (words.find? fun w => w.1.isPrefixOf cs).map fun w => (w.2, w.1.length)

/-- A value that is neither text nor list nor object. -/
def readScalar (inp : Input) : Except Refusal (Json × Input) :=
  -- Words come first: `-Infinity` would otherwise be refused as a number.
  match readWord? inp.rest with
  | some (value, width) => .ok (value, inp.drop width)
  | none =>
    match readNumber? inp.rest with
    | some (.ok value, width) => .ok (value, inp.drop width)
    | some (.error e, _) => .error e
    | none => .error (.malformed inp.position)

mutual

/-- The value at the start of the input, with at most `depth` lists and objects
    inside each other. -/
def readValue : Nat → Nat → Input → Except Refusal (Json × Input)
  | 0, _, inp => .error (.malformed inp.position)
  | fuel + 1, depth, inp =>
    match inp.rest with
    | '"' :: rest => do
      let (t, inp) ← readText inp.position (inp.position + 1) [] rest
      .ok (.text t, inp)
    | '\x7b' :: _ =>
      match depth with
      | 0 => .error .tooDeep
      | depth + 1 =>
        let inp := (inp.drop 1).skip
        match inp.rest with
        | '\x7d' :: _ => .ok (.object [], inp.drop 1)
        | _ => readMembers fuel depth [] inp
    | '[' :: _ =>
      match depth with
      | 0 => .error .tooDeep
      | depth + 1 =>
        let inp := (inp.drop 1).skip
        match inp.rest with
        | ']' :: _ => .ok (.list [], inp.drop 1)
        | _ => readItems fuel depth [] inp
    | _ => readScalar inp

/-- The items of a list behind those already read. -/
def readItems : Nat → Nat → List Json → Input → Except Refusal (Json × Input)
  | 0, _, _, inp => .error (.malformed inp.position)
  | fuel + 1, depth, acc, inp => do
    let (value, inp) ← readValue fuel depth inp
    let inp := inp.skip
    match inp.rest with
    | ']' :: _ => .ok (.list (value :: acc).reverse, inp.drop 1)
    | ',' :: _ => readItems fuel depth (value :: acc) (inp.drop 1).skip
    | _ => .error (.malformed inp.position)

/-- The members of an object behind those already read. -/
def readMembers : Nat → Nat → List (Text × Json) → Input → Except Refusal (Json × Input)
  | 0, _, _, inp => .error (.malformed inp.position)
  | fuel + 1, depth, acc, inp =>
    match inp.rest with
    | '"' :: rest => do
      let (name, inp) ← readText inp.position (inp.position + 1) [] rest
      let inp := inp.skip
      match inp.rest with
      | ':' :: _ =>
        let (value, inp) ← readValue fuel depth (inp.drop 1).skip
        -- A name that was there before keeps its place and takes the new value.
        let members := putMember acc name value
        let inp := inp.skip
        match inp.rest with
        | '\x7d' :: _ => .ok (.object members, inp.drop 1)
        | ',' :: _ => readMembers fuel depth members (inp.drop 1).skip
        | _ => .error (.malformed inp.position)
      | _ => .error (.malformed inp.position)
    | _ => .error (.malformed inp.position)

end

/-- The value of a document with at most `depth` lists and objects inside each
    other. Every step of the reader takes a character or descends into a list
    or an object, so twice the length bounds them. -/
def readWithin (depth : Nat) (cs : List Char) : Except Refusal Json := do
  let (value, inp) ← readValue (2 * cs.length + 2) depth (skipGaps 0 cs)
  let inp := inp.skip
  match inp.rest with
  | [] => .ok value
  | _ :: _ => .error (.malformed inp.position)

/-- How many lists and objects may stand inside each other in a document that
    is not trusted. -/
def depthLimit : Nat := 950

/-- The value of a document that is not trusted. -/
def readChars (cs : List Char) : Except Refusal Json :=
  readWithin depthLimit cs

/-- The value of a document of any depth. -/
def read (s : String) : Except Refusal Json :=
  readWithin s.length s.toList

end Json

end Outreach
