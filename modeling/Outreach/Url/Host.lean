import Outreach.Fault
import Outreach.Text.Cut
import Outreach.Text.Lowercase
import Outreach.Text.Percent
import Outreach.Url.Name
import Outreach.Url.Punycode

/-!
# Hosts

The host of an address: four numbers with points between them, an address of
eight groups in brackets, or a name. A name in ASCII may hold any characters,
of which some are written as bytes. Of another name, every part must be one
that can be registered; parts beyond ASCII are written in Punycode.

## Main definitions

* `Url.refused`: The failure to read an address.
* `Url.quoted`: A text with all but some characters written as bytes.
* `Url.isFourNumbers`, `Url.isEightGroups`: Numeric hosts.
* `Url.nameOf?`: A name in ASCII.
* `Url.hostOf`: The host that a text denotes.
-/

namespace Outreach

namespace Url

/-- The failure to read an address. -/
def refused (reason : Text) : Fault :=
  .foreign "InvalidURL" reason

/-- Whether a character is a hexadecimal digit. -/
def isHexDigit (c : Char) : Bool :=
  c.isDigit || (decide ('a' ≤ c) && decide (c ≤ 'f')) || (decide ('A' ≤ c) && decide (c ≤ 'F'))

/-- Whether a character is kept in every part of an address. -/
def isUnreserved (c : Char) : Bool :=
  c.isAlphanum || c == '-' || c == '.' || c == '_' || c == '~'

/-- The printable ASCII characters apart from some. -/
def printableBut (excluded : String) (c : Char) : Bool :=
  decide (0x20 < c.toNat) && decide (c.toNat < 0x7F) && !excluded.toList.contains c

/-- Whether two hexadecimal digits stand at the start of a list. -/
def startsWithByte : List Point → Bool
  | .char a :: .char b :: _ => isHexDigit a && isHexDigit b
  | _ => false

/-- Points with all but the characters of a class written as bytes. A percent
    sign before two hexadecimal digits is kept in any case. -/
def quotedChars (keep : Char → Bool) : List Point → Except Fault (List Char)
  | [] => .ok []
  | .half k :: _ => .error (.notEncodable ⟨.half k, 0, 1⟩)
  | .char c :: rest => do
    let more ← quotedChars keep rest
    if keep c || (c == '%' && startsWithByte rest) then return c :: more
    return (Text.bytesOf c).flatMap Text.percentByte ++ more

/-- A text with all but the characters of a class written as bytes. -/
def quoted (keep : Char → Bool) (ps : List Point) : Except Fault String :=
  return String.ofList (← quotedChars (fun c => isUnreserved c || keep c) ps)

/-- Whether a text consists of runs of digits with any character between each
    two, `more` of which follow the run that has begun. -/
def isDigitRuns : Nat → List Char → Bool
  | 0, [] => true
  | _ + 1, [] => false
  | 0, c :: rest => c.isDigit && isDigitRuns 0 rest
  | more + 1, [c] => c.isDigit && isDigitRuns (more + 1) []
  | more + 1, c :: d :: rest =>
    (c.isDigit && isDigitRuns (more + 1) (d :: rest)) || (d.isDigit && isDigitRuns more rest)

/-- Whether a host has the looks of four numbers. -/
def looksNumeric (cs : List Char) : Bool :=
  match cs with
  | c :: rest => c.isDigit && isDigitRuns 3 rest
  | [] => false

/-- Whether a text is a number of at most 255 without leading zeros. -/
def isByteNumber (s : String) : Bool :=
  !s.isEmpty && s.toList.all Char.isDigit && decide (s.length ≤ 3) &&
    (s.length == 1 || s.front != '0') && decide ((s.toNat?.getD 256) ≤ 255)

/-- Whether a host is four numbers with points between them. -/
def isFourNumbers (s : String) : Bool :=
  let parts := s.splitOn "."
  parts.length == 4 && parts.all isByteNumber

/-- Whether a text is a group of up to four hexadecimal digits. -/
def isGroup (s : String) : Bool :=
  !s.isEmpty && s.toList.all isHexDigit && decide (s.length ≤ 4)

/-- Groups with four numbers at the end written as two groups. -/
def withoutNumbers? (parts : List String) : Option (List String) :=
  match parts.getLast? with
  | some last =>
    if last.toList.contains '.' then
      if isFourNumbers last then some (parts.dropLast ++ ["0", "0"]) else none
    else some parts
  | none => none

/-- Whether the groups before and behind the one gap are acceptable. An empty
    group stands only at an end, where the gap is. -/
def areAround (before behind : List String) : Bool :=
  let before := if before == [""] then [] else before
  let behind := if behind == [""] then [] else behind
  before.all isGroup && behind.all isGroup && decide (before.length + behind.length < 8)

/-- Whether some groups, at most one run of zeros being left out, are eight. -/
def areEight (parts : List String) : Bool :=
  let inner := (parts.drop 1).dropLast
  let before := (inner.takeWhile fun s => !s.isEmpty).length + 1
  match inner.countP String.isEmpty with
  | 0 => parts.length == 8 && parts.all isGroup
  | 1 => decide (parts.length ≤ 9) && areAround (parts.take before) (parts.drop (before + 1))
  | _ => false

/-- Whether the name of a zone may follow an address behind a percent sign. -/
def isZone (zone : List String) : Bool :=
  match zone with
  | [] => true
  | [name] => !name.isEmpty
  | _ => false

/-- Whether a host is an address of eight groups. -/
def isEightGroups (s : String) : Bool :=
  match s.splitOn "%" with
  | [] => false
  | address :: zone =>
    let parts := address.splitOn ":"
    !s.toList.contains '/' && isZone zone && decide (3 ≤ parts.length) &&
      ((withoutNumbers? parts).map areEight).getD false

/-- The Greek characters, roughly. -/
def greek : List (Nat × Nat) := [(0x370, 0x3FF), (0x1F00, 0x1FFF)]

/-- The Hebrew characters. -/
def hebrew : List (Nat × Nat) := [(0x591, 0x5F4), (0xFB1D, 0xFB4F)]

/-- The Japanese characters. -/
def japanese : List (Nat × Nat) :=
  [(0x2E80, 0x2FD5), (0x3005, 0x3007), (0x3021, 0x3029), (0x3038, 0x303B), (0x3041, 0x309F),
    (0x30A1, 0x30FA), (0x30FC, 0x30FF), (0x31F0, 0x31FF), (0x3400, 0x4DBF), (0x4E00, 0x9FFF),
    (0xF900, 0xFAD9), (0x20000, 0x323AF)]

/-- Whether some character of a list lies in some ranges. -/
def anyIn (ranges : List (Nat × Nat)) (cs : List Char) : Bool :=
  cs.any fun c => Text.inRanges ranges c.toNat

/-- The characters that have a place only between certain others. -/
def suits (before : List Char) (c : Char) (behind : List Char) : Bool :=
  let n := c.toNat
  -- The middle dot stands between two letters l, the numeral sign before a Greek letter
  -- and the Hebrew marks behind a Hebrew one.
  if n = 0xB7 then before.take 1 == ['l'] && behind.take 1 == ['l']
  else if n = 0x375 then anyIn greek (behind.take 1)
  else if n = 0x5F3 ∨ n = 0x5F4 then anyIn hebrew (before.take 1)
  else if n = 0x30FB then anyIn japanese (before ++ behind)
  else if 0x660 ≤ n ∧ n ≤ 0x669 then !anyIn [(0x6F0, 0x6F9)] (before ++ behind)
  else if 0x6F0 ≤ n ∧ n ≤ 0x6F9 then !anyIn [(0x660, 0x669)] (before ++ behind)
  else isNameChar c

/-- Whether all characters of a part of a name have a place in it, the first
    ones being given in reverse. -/
def allSuit (before : List Char) : List Char → Bool
  | [] => true
  | c :: rest => suits before c rest && allSuit (c :: before) rest

/-- Whether a part of a name can be registered. -/
def isPart (cs : List Char) : Bool :=
  !cs.isEmpty && (cs.drop 2).take 2 != ['-', '-'] && cs.head? != some '-' &&
    cs.getLast? != some '-' && allSuit [] cs

/-- A part of a name in ASCII, if it can be registered. -/
def partOf? (cs : List Char) : Option (List Char) :=
  let marked := "xn--".toList
  let written :=
    if cs.all Punycode.isAscii then
      let rest := cs.drop 4
      -- What is marked already is taken as it is; only its last character is looked at.
      if marked.isPrefixOf cs then
        if rest.isEmpty || rest.getLast? == some '-' then none else some cs
      else if isPart cs then some cs else none
    else if isPart cs then some (marked ++ Punycode.encode cs) else none
  written.filter fun part => decide (part.length ≤ 63)

/-- The characters that stand between the parts of a name. -/
def separators : List Char := ['.', '\u3002', '\uFF0E', '\uFF61']

/-- The parts of a name. -/
def partsOf (part : List Char) : List Char → List (List Char)
  | [] => [part.reverse]
  | c :: rest =>
    if separators.contains c then part.reverse :: partsOf [] rest else partsOf (c :: part) rest

/-- A name in ASCII, if all its parts can be registered. An empty part may
    stand at its end. -/
def nameOf? (cs : List Char) : Option String := do
  let parts := partsOf [] cs
  -- A separator at the end leaves an empty last part.
  let isOpen := parts.getLast? == some []
  let written ← (if isOpen then parts.dropLast else parts).mapM partOf?
  if written.isEmpty then none
  let name := ".".intercalate (written.map String.ofList) ++ (if isOpen then "." else "")
  if name.length ≤ (if isOpen then 254 else 253) then some name else none

/-- What stands between brackets around a list, if any do. -/
def insideBrackets? (ps : List Point) : Option (List Point) :=
  match Text.behind? '[' ps with
  | some inside => if inside.getLast? = some (.char ']') then some inside.dropLast else none
  | none => none

/-- Whether all points are in ASCII. -/
def isAsciiText (ps : List Point) : Bool :=
  ps.all (Point.isIn Punycode.isAscii)

/-- The host that a text denotes. -/
def hostOf (ps : List Point) : Except Fault String :=
  let host : Text := ⟨ps⟩
  let string := host.string?.getD ""
  let invalid (what : String) : Except Fault String :=
    .error (refused ("Invalid " ++ what ++ ": " ++ host.quoted))
  -- The forms are told apart before they are checked, so a flawed address of four
  -- numbers is not taken for a name.
  if looksNumeric ((host.chars?).getD []) then
    if isFourNumbers string then .ok string else invalid "IPv4 address"
  else
    match insideBrackets? ps with
    | some inside =>
      match (Text.mk inside).string? with
      | some s => if isEightGroups s then .ok s else invalid "IPv6 address"
      | none => invalid "IPv6 address"
    | none =>
      if isAsciiText ps then quoted (printableBut " #/:<>?@[]^") host.lowercase.points
      else
        match (host.lowercase.chars?).bind nameOf? with
        | some name => .ok name
        | none => invalid "IDNA hostname"

end Url

end Outreach
