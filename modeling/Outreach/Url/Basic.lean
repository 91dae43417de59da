import Outreach.Number.Literal
import Outreach.Url.Host

/-!
# Web Addresses

The parts of an address `scheme://user@host:port/path?query#fragment`, any of
which may be missing. They are kept in ASCII, other characters being written
as bytes. Scheme and host are in lower case, and a port is left out if it is
the one that its scheme stands for. Steps of a path that lead to where they
stand, or back, are resolved if the address has a scheme or a host.

An address without a scheme or without a host is relative: it stands for a
path below another address.

## Main definitions

* `Url`: An address.
* `Url.ofText`: The address that a text denotes.
* `Url.text`: An address as it is written.
* `Url.below`: A relative address below another.
-/

namespace Outreach

/-- A web address. -/
structure Url where
  scheme : String
  user : String
  host : String
  port : Option Int
  path : String
  query : Option String
  fragment : Option String
  deriving DecidableEq, Inhabited

namespace Url

/-- The greatest length of an address. -/
def lengthLimit : Nat := 65536

/-- Whether a point is an ASCII control character. -/
def isControl (p : Point) : Bool :=
  p.isIn fun c => decide (c.toNat < 0x20) || c.toNat == 0x7F

/-- Refuse texts that are too long or hold control characters. -/
def ensurePlain (t : Text) : Except Fault Unit := do
  if lengthLimit < t.length then throw (refused "URL too long")
  match t.points.dropWhile fun p => !isControl p with
  | [] => return ()
  | p :: rest =>
    throw <| refused <|
      "Invalid non-printable ASCII character in URL, " ++ (Text.mk [p]).quoted ++
        " at position " ++ toString (t.length - rest.length - 1) ++ "."

/-- Whether a character has a place in a scheme behind its first letter. -/
def isSchemeChar (c : Char) : Bool :=
  c.isAlphanum || c == '+' || c == '.' || c == '-'

/-- The scheme at the start of a text, and what follows it. -/
def takeScheme (ps : List Point) : List Point × List Point :=
  let run :=
    match ps with
    | p :: _ => if p.isIn Char.isAlpha then ps.takeWhile (Point.isIn isSchemeChar) else []
    | [] => []
  match Text.behind? ':' (ps.drop run.length) with
  | some rest => (run, rest)
  | none => ([], ps)

/-- User, host and port at the start of a text, and what follows them. -/
def takeAuthority (ps : List Point) : List Point × List Point :=
  match (Text.behind? '/' ps).bind (Text.behind? '/') with
  | some rest => Text.cut ['/', '?', '#'] rest
  | none => ([], ps)

/-- What follows a character, up to a second one, and the rest. -/
def takeBehind (c : Char) (stop : List Char) (ps : List Point) :
    Option (List Point) × List Point :=
  match Text.behind? c ps with
  | some rest =>
    let (part, rest) := Text.cut stop rest
    (some part, rest)
  | none => (none, ps)

/-- The host at the start of a text, and the text of the port behind it. -/
def splitPort (ps : List Point) : List Point × List Point :=
  let (host, rest) :=
    match (Text.behind? '[' ps).bind (Text.lastCut? ']') with
    | some (_, tail) => (ps.take (ps.length - tail.length), tail)
    | none => Text.cut [':', '@'] ps
  (host, (Text.behind? ':' rest).getD rest)

/-- The port that a scheme stands for. -/
def defaultPort? (scheme : String) : Option Int :=
  [("ftp", 21), ("http", 80), ("https", 443), ("ws", 80), ("wss", 443)].lookup scheme

/-- The port that a text names. The scheme is taken as it was written. -/
def portOf (scheme : List Point) (port : List Point) : Except Fault (Option Int) :=
  let t : Text := ⟨port⟩
  if t.isEmpty then .ok none
  else
    match t.readInt with
    | .ok n =>
      -- The names of schemes are in lower case, so another spelling has no usual port.
      let usual := defaultPort? ((Text.mk scheme).string?.getD "")
      .ok (if usual = some n then none else some n)
    | .error _ => .error (refused ("Invalid port: " ++ t.quoted))

/-- A path without the steps that lead to where they stand, or back. -/
def resolved (path : String) : String :=
  "/".intercalate (((path.toList.splitOn '/').map String.ofList).foldl step [])
where
  /-- The steps so far, with one more. -/
  step (steps : List String) (s : String) : List String :=
    if s == "." then steps
    -- The empty step in front of a leading slash is never taken back.
    else if s == ".." then if steps == [""] then steps else steps.dropLast
    else steps ++ [s]

/-- Refuse the paths that cannot stand at the start of an address. -/
def ensurePath (path : List Point) : Except Fault Unit := do
  if (Text.behind? ':' path).isSome then
    throw (refused "Relative URLs cannot have a path starting with ':'")
  if ((Text.behind? '/' path).bind (Text.behind? '/')).isSome then
    throw (refused "Relative URLs cannot have a path starting with '//'")

/-- The address that a text denotes. -/
def ofText (t : Text) : Except Fault Url := do
  ensurePlain t
  let (scheme, rest) := takeScheme t.points
  let (authority, rest) := takeAuthority rest
  let (path, rest) := Text.cut ['?', '#'] rest
  let (query, rest) := takeBehind '?' ['#'] rest
  let (fragment, _) := takeBehind '#' [] rest
  let (userText, place) := (Text.lastCut? '@' authority).getD ([], authority)
  let (hostText, portText) := splitPort place
  let user ← quoted (printableBut "\"#<>?\x60\x7b\x7d/;=@[\\]^|") userText
  let host ← hostOf hostText
  let port ← portOf scheme portText
  -- The usual port of a scheme was left out above, but then the scheme is there.
  let isPlaced := !scheme.isEmpty || !user.isEmpty || !host.isEmpty || port.isSome
  if !isPlaced then ensurePath path
  let path ← quoted (printableBut "\"#<>?\x60\x7b\x7d") path
  return {
    scheme := ((Text.mk scheme).string?.getD "").toLower
    user := user
    host := host
    port := port
    path := if isPlaced then resolved path else path
    query := ← query.mapM (quoted (printableBut "\"#<>"))
    fragment := ← fragment.mapM (quoted (printableBut "\"<>\x60")) }

/-- Host and port of an address as they are written. -/
def place (u : Url) : String :=
  (if u.host.toList.contains ':' then "[" ++ u.host ++ "]" else u.host) ++
    ((u.port.map fun n => ":" ++ toString n).getD "")

/-- An address as it is written. -/
def text (u : Url) : String :=
  let authority := (if u.user.isEmpty then "" else u.user ++ "@") ++ u.place
  (if u.scheme.isEmpty then "" else u.scheme ++ ":") ++
    (if authority.isEmpty then "" else "//" ++ authority) ++ u.path ++
    ((u.query.map fun q => "?" ++ q).getD "") ++ ((u.fragment.map fun f => "#" ++ f).getD "")

/-- Whether an address stands for a path below another. -/
def isRelative (u : Url) : Bool :=
  u.scheme.isEmpty || u.host.isEmpty

/-- The address that a relative address stands for below another, whose path
    is the root. -/
def below (base u : Url) : Url :=
  if u.isRelative then
    let path := "/" ++ String.ofList (u.path.toList.dropWhile (· == '/'))
    { base with
      path := if base.scheme.isEmpty && base.host.isEmpty then path else resolved path
      query := u.query }
  else u

/-- The path of an address, without bytes. -/
def decodedPath (u : Url) : String :=
  ((Text.percentDecode (if u.path.isEmpty then "/" else u.path : String)).string?).getD ""

end Url

end Outreach
