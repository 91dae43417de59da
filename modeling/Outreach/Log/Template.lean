import Outreach.Fault
import Outreach.Log.Line
import Outreach.Number.Fixed

/-!
# Message Templates of the Log

A message may have places that are filled with arguments. A place starts with
a percent sign and ends with a letter that says how the argument is shown;
between them may stand the name of a member of the argument, flags, a least
width and a precision, each of the last two given by number or, as an
asterisk, by an argument of its own. Two percent signs stand for one.

Arguments are given one by one or as one value. One value fills a single
place, or, if it has members, any number of places by name.

## Main definitions

* `Log.Arguments`: The arguments of a message.
* `Log.Place`: What a place asks for.
* `Log.overlong`: The fault of an integer with too many digits.
* `Log.showArgument`: An argument as a place asks for it.
* `Log.fill`: A template with its places filled.
-/

namespace Outreach

namespace Log

/-- The arguments of a message. -/
inductive Arguments
  /-- Arguments one by one. -/
  | list (vs : List Json)
  /-- One value. -/
  | single (v : Value)
  deriving Inhabited

/-- What a place asks for. -/
structure Place where
  leftward : Bool
  plus : Bool
  blank : Bool
  alternate : Bool
  zeros : Bool
  width : Nat
  precision : Option Nat
  letter : Point

/-- The arguments that are left. -/
structure Supply where
  /-- The value whose members can be asked for. -/
  named : Option Json
  left : List Value
  deriving Inhabited

/-- The supply of the arguments of a message. -/
def Arguments.supply : Arguments → Supply
  | .list vs => ⟨none, vs.map .json⟩
  | .single v =>
    match v with
    | .json (.object _) | .json (.list _) => ⟨v.json?, [v]⟩
    | _ => ⟨none, [v]⟩

/-- The next argument. -/
def Supply.next (s : Supply) : Except Fault (Value × Supply) :=
  match s.left with
  | v :: rest => .ok (v, { s with left := rest })
  | [] => .error .wrongType

/-- A text in ASCII: other characters are shown by their code points. -/
def asciiOnly (cs : List Char) : List Char :=
  cs.flatMap fun c => if c.toNat < 0x80 then [c] else Text.showCode c.toNat

/-- Sign, mark and digits of a number in a place of a given width. -/
def padNumber (p : Place) (sign mark digits : List Char) : List Char :=
  let missing := p.width - (sign.length + mark.length + digits.length)
  if p.leftward then sign ++ mark ++ digits ++ List.replicate missing ' '
  else if p.zeros then sign ++ mark ++ List.replicate missing '0' ++ digits
  else List.replicate missing ' ' ++ sign ++ mark ++ digits

/-- A text in a place of a given width. -/
def padText (p : Place) (t : Text) : Text :=
  let shown :=
    match p.precision with
    | some n => t.points.take n
    | none => t.points
  let missing := List.replicate (p.width - shown.length) (Point.char ' ')
  if p.leftward then ⟨shown ++ missing⟩ else ⟨missing ++ shown⟩

/-- The sign that is shown before a number. -/
def signText (p : Place) (negative : Bool) : List Char :=
  if negative then ['-'] else if p.plus then ['+'] else if p.blank then [' '] else []

/-- The fault of an integer that has too many digits to be put into words. -/
def overlong : Fault :=
  .badTemplate ("Exceeds the limit (" ++ toString wholeDigitLimit ++
    " digits) for integer string conversion; " ++
    "use sys.set_int_max_str_digits() to increase the limit")

/-- The greatest precision of an integer. -/
def integerPrecisionLimit : Nat := twoTo 31 - 4

/-- An integer in a place. -/
def showInteger (p : Place) (base : Nat) (mark : List Char) (n : Int) :
    Except Fault (List Char) :=
  let least := p.precision.getD 0
  if integerPrecisionLimit < least then .error (.foreign "OverflowError" "precision too large")
  -- Only decimal digits are counted.
  else if base = 10 ∧ !fitsDigits (.int n) then .error overlong
  else
    let digits := Nat.toDigits base n.natAbs
    let digits := if p.letter = .char 'X' then digits.map Char.toUpper else digits
    -- The precision counts digits only; sign and mark come on top of it.
    let digits := List.replicate (least - digits.length) '0' ++ digits
    .ok (padNumber p (signText p (decide (n < 0))) (if p.alternate then mark else []) digits)

/-- A double in a place. -/
def showDouble (p : Place) (letter : Char) : Double → List Char
  | .nan => padNumber p (signText p false) [] (if letter.isUpper then "NAN" else "nan").toList
  | .number negative rank _ =>
    let places := p.precision.getD 6
    let digits :=
      if rank = infinityRank then (if letter.isUpper then "INF" else "inf").toList
      else if letter == 'f' || letter == 'F' then fixedText places p.alternate rank
      else if letter == 'e' || letter == 'E' then scientificText letter places p.alternate rank
      else generalText (if letter == 'G' then 'E' else 'e') places p.alternate rank
    padNumber p (signText p negative) [] digits

/-- The integer that an argument is, a double being cut off and an identifier
    being its number. -/
def wholeArgument (v : Value) : Except Fault Int :=
  match v with
  | .id u => .ok u.toNat
  | .json (.int n) => .ok n
  | .json (.bool b) => .ok (if b then 1 else 0)
  | .json (.double x) =>
    if x.isNaN then .error (.badTemplate "cannot convert float NaN to integer")
    else if x.isInfinite then
      .error (.foreign "OverflowError" "cannot convert float infinity to integer")
    else .ok x.truncate
  | _ => .error .wrongType

/-- The integer that an argument is. -/
def exactArgument (v : Value) : Except Fault Int :=
  match v with
  | .json (.int n) => .ok n
  | .json (.bool b) => .ok (if b then 1 else 0)
  | _ => .error .wrongType

/-- The double that an argument is. -/
def doubleArgument (v : Value) : Except Fault Double :=
  match v with
  | .json (.double x) => .ok x
  | .json (.int n) =>
    let x := Double.ofInt n
    if x.isInfinite then .error .integerRange else .ok x
  | .json (.bool b) => .ok (Double.ofInt (if b then 1 else 0))
  | _ => .error .wrongType

/-- The character that an argument is. -/
def characterArgument (v : Value) : Except Fault Point :=
  match v with
  | .json (.text ⟨[p]⟩) => .ok p
  | .json (.int n) =>
    if 0 ≤ n ∧ n < 0x110000 then .ok (.ofCode n.toNat)
    else .error (.foreign "OverflowError" "%c arg not in range(0x110000)")
  | .json (.bool b) => .ok (.ofCode (if b then 1 else 0))
  | _ => .error .wrongType

/-- The fault of a place with an unknown letter. -/
def unknownLetter (p : Point) (position : Nat) : Fault :=
  let shown := if 31 ≤ p.code ∧ p.code ≤ 126 then Char.ofNat p.code else '?'
  .badTemplate ("unsupported format character '" ++ String.ofList [shown] ++ "' (0x" ++
    String.ofList (Nat.toDigits 16 p.code) ++ ") at index " ++ toString position)

/-- The words for an argument, if it can be put into words. -/
def wordsFor (v : Value) (words : Text) : Except Fault Text :=
  if v.fitsDigits then .ok words else .error overlong

/-- An argument as a place asks for it. -/
def showArgument (p : Place) (position : Nat) (v : Value) : Except Fault Text :=
  match p.letter with
  | .half _ => .error (unknownLetter p.letter position)
  | .char letter =>
    match letter with
    | 's' => return padText p (← wordsFor v v.plain)
    | 'r' => return padText p (← wordsFor v v.shown)
    | 'a' => return padText p (← wordsFor v (.ofChars (asciiOnly v.shown.toList)))
    | 'd' | 'i' | 'u' => return .ofChars (← showInteger p 10 [] (← wholeArgument v))
    | 'x' | 'X' => return .ofChars (← showInteger p 16 ['0', letter] (← exactArgument v))
    | 'o' => return .ofChars (← showInteger p 8 ['0', 'o'] (← exactArgument v))
    | 'e' | 'E' | 'f' | 'F' | 'g' | 'G' =>
      return .ofChars (showDouble p letter (← doubleArgument v))
    -- A single character is shown whatever the precision, even zero.
    | 'c' => return padText { p with precision := none } ⟨[← characterArgument v]⟩
    | _ => .error (unknownLetter p.letter position)

/-- What is left of a template, with its position. -/
structure Cursor where
  position : Nat
  rest : List Point

/-- The cursor behind a number of points. -/
def Cursor.drop (c : Cursor) (n : Nat) : Cursor :=
  ⟨c.position + n, c.rest.drop n⟩

/-- The length of a name up to its closing parenthesis, given how many are
    open. -/
def nameLength? (depth : Nat) : List Point → Option Nat
  | [] => none
  | .char ')' :: rest => if depth = 0 then some 0 else (nameLength? (depth - 1) rest).map (· + 1)
  | .char '(' :: rest => (nameLength? (depth + 1) rest).map (· + 1)
  | _ :: rest => (nameLength? depth rest).map (· + 1)

/-- The name in a place, if there is one: the member becomes the only
    argument. -/
def takeName (c : Cursor) (s : Supply) : Except Fault (Cursor × Supply) :=
  match c.rest with
  | .char '(' :: rest =>
    match s.named with
    -- Only a value with members can be asked for one of them.
    | none => .error .wrongType
    | some named =>
      match nameLength? 0 rest with
      | none => .error (.badTemplate "incomplete format key")
      | some n =>
        match named with
        | .object ms =>
          match Json.find? ms ⟨rest.take n⟩ with
          | some v => .ok (c.drop (n + 2), ⟨s.named, [.json v]⟩)
          | none => .error .noMember
        | _ => .error .wrongType
  | _ => .ok (c, s)

/-- The flags of a place. -/
def isFlag (p : Point) : Bool :=
  p.isIn ['-', '+', ' ', '#', '0'].contains

/-- How large a number in a place may be. -/
structure Bound where
  /-- The least magnitude that is too large. -/
  limit : Nat
  /-- The fault of an argument that is too large. -/
  argument : Fault
  /-- The fault of written digits that are too large. -/
  written : Fault

/-- How large a width may be. -/
def widthBound : Bound :=
  ⟨twoTo 63, .foreign "OverflowError" "Python int too large to convert to C ssize_t",
    .badTemplate "width too big"⟩

/-- How large a precision may be. -/
def precisionBound : Bound :=
  ⟨twoTo 31, .foreign "OverflowError" "Python int too large to convert to C int",
    .badTemplate "precision too big"⟩

/-- The integer that an argument gives for a number in a place. -/
def Bound.check (b : Bound) (n : Int) : Except Fault Int :=
  if -(b.limit : Int) ≤ n ∧ n < b.limit then .ok n else .error b.argument

/-- A number given in a place or by an argument, zero if there is none. -/
def takeNumber (b : Bound) (c : Cursor) (s : Supply) : Except Fault (Int × Cursor × Supply) :=
  match c.rest with
  | .char '*' :: _ => do
    let (v, s) ← s.next
    match v with
    | .json (.int n) => return (← b.check n, c.drop 1, s)
    | .json (.bool b) => return (if b then 1 else 0, c.drop 1, s)
    | _ => throw .wrongType
  | rest =>
    let ds := rest.takeWhile (Point.isIn Char.isDigit)
    let n : Nat := ds.foldl (fun n d => 10 * n + (d.code - 0x30)) 0
    if n < b.limit then .ok ((n : Int), c.drop ds.length, s) else .error b.written

/-- The precision of a place, if there is one. -/
def takePrecision (c : Cursor) (s : Supply) : Except Fault (Option Nat × Cursor × Supply) :=
  match c.rest with
  | .char '.' :: _ => do
    let (n, c, s) ← takeNumber precisionBound (c.drop 1) s
    .ok (some n.toNat, c, s)
  | _ => .ok (none, c, s)

/-- The letters that may stand before the last one without a meaning. -/
def isSize (p : Point) : Bool :=
  p.isIn ['h', 'l', 'L'].contains

/-- The greatest width that there is room for. -/
def roomLimit : Nat := twoTo 36

/-- An argument as a place asks for it, if there is room for it. -/
def showWithin (p : Place) (position : Nat) (v : Value) : Except Fault Text := do
  if p.width ≤ roomLimit then showArgument p position v
  else
    -- A flaw of the argument shows before the width does.
    let _ ← showArgument { p with width := 0 } position v
    throw (.foreign "MemoryError" "")

/-- The place behind a percent sign, filled. -/
def takePlace (c : Cursor) (s : Supply) : Except Fault (Text × Cursor × Supply) := do
  let (c, s) ← takeName c s
  let flags := c.rest.takeWhile isFlag
  let (width, c, s) ← takeNumber widthBound (c.drop flags.length) s
  let (precision, c, s) ← takePrecision c s
  let c :=
    match c.rest with
    | d :: _ => if isSize d then c.drop 1 else c
    | [] => c
  match c.rest with
  | [] => .error (.badTemplate "incomplete format")
  | letter :: _ =>
    let (v, s) ← s.next
    let place : Place :=
      -- A negative width, which only an argument can give, means leftward.
      ⟨flags.contains (.char '-') || decide (width < 0), flags.contains (.char '+'),
        flags.contains (.char ' '), flags.contains (.char '#'), flags.contains (.char '0'),
        width.natAbs, precision, letter⟩
    .ok (← showWithin place c.position v, c.drop 1, s)

/-- Fill the places of what is left of a template, looking at `fuel` points;
    `done` is what was written so far, in reverse. -/
def fillFrom : Nat → List Point → Cursor → Supply → Except Fault Text
  | 0, done, _, _ => .ok ⟨done.reverse⟩
  | fuel + 1, done, c, s =>
    match c.rest with
    -- A value that can be asked by name need not be used up.
    | [] => if s.named.isNone && !s.left.isEmpty then .error .wrongType else .ok ⟨done.reverse⟩
    | .char '%' :: .char '%' :: _ => fillFrom fuel (.char '%' :: done) (c.drop 2) s
    | .char '%' :: _ => do
      let (shown, c, s) ← takePlace (c.drop 1) s
      fillFrom fuel (shown.points.reverse ++ done) c s
    | p :: _ => fillFrom fuel (p :: done) (c.drop 1) s

/-- A template with its places filled. -/
def fill (template : Text) (args : Arguments) : Except Fault Text :=
  fillFrom (template.length + 1) [] ⟨0, template.points⟩ args.supply

end Log

end Outreach
