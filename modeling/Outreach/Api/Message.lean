import Outreach.Json.Basic
import Outreach.Url.Basic

/-!
# Requests and Responses

The messages that callers exchange with the service. A request names its
target by an address, which may be relative to that of the service. Names of
headers are kept in lower case, and names and values of headers are in ASCII.
The content of a response is a document, a text, or a page for people to look
at, whose text is left open.

## Main definitions

* `Request`: A request.
* `Request.make`: The request with a target.
* `Request.header?`, `Request.parameter?`: What a request carries.
* `Request.addressOf`: The address of a path, as the caller knows it.
* `Response`: A response.
* `Response.document`, `Response.plain`: Responses with a content.
-/

namespace Outreach

namespace Api

/-- A request. -/
structure Request where
  method : String
  scheme : String
  /-- The host of the service as the caller knows it. -/
  host : String
  path : String
  /-- The query as it was sent. -/
  query : String
  /-- The parameters of the query, in order. -/
  parameters : List (String × String)
  headers : List (String × String)
  body : String
  deriving DecidableEq, Inhabited

/-- A text up to a character, and what follows the character. -/
def splitAt (c : Char) (s : String) : String × String :=
  let cs := s.toList
  (String.ofList (cs.takeWhile (· != c)), String.ofList ((cs.dropWhile (· != c)).drop 1))

/-- A name or a value of a query, in which a plus sign stands for a blank. -/
def queryText (s : String) : String :=
  let blanks := String.ofList (s.toList.map fun c => if c == '+' then ' ' else c)
  ((Text.percentDecode blanks).string?).getD ""

/-- A parameter of a query. -/
def parameterOf (part : String) : String × String :=
  let (name, value) := splitAt '=' part
  (queryText name, queryText value)

/-- The parameters of a query. -/
def parametersOf (query : String) : List (String × String) :=
  (((query.toList.splitOn '&').map String.ofList).filter fun part => !part.isEmpty).map parameterOf

/-- The value of a header. -/
def findHeader (headers : List (String × String)) (name : String) : Option String :=
  (headers.find? fun h => h.1 == name).map Prod.snd

/-- Why a text cannot be part of a header: its first run of points beyond
    ASCII. -/
def beyondAscii (before run : List Point) : Fault :=
  let start := before.length
  let place :=
    match run with
    | [p] =>
      "character " ++ String.ofList ('\'' :: Text.showCode p.code) ++ "' in position " ++
        toString start
    | _ => "characters in position " ++ toString start ++ "-" ++ toString (start + run.length - 1)
  .foreign "UnicodeEncodeError"
    ("'ascii' codec can't encode " ++ place ++ ": ordinal not in range(128)")

/-- The name or the value of a header. -/
def headerText (t : Text) : Except Fault String :=
  let isAscii (p : Point) : Bool := p.isIn Punycode.isAscii
  let before := t.points.takeWhile isAscii
  match (t.points.drop before.length).takeWhile fun p => !isAscii p with
  | [] => .ok (t.string?.getD "")
  | run => .error (beyondAscii before run)

/-- A header. -/
def headerOf (h : Text × Text) : Except Fault (String × String) := do
  let name ← headerText h.1
  let value ← headerText h.2
  return (name.toLower, value)

/-- The address of the service. -/
def service : Url := ⟨"http", "", "engine.test", none, "/", none, none⟩

namespace Request

/-- The request with a target. -/
def make (method target : Text) (headers : List (Text × Text)) (body : Text) :
    Except Fault Request := do
  let url := service.below (← Url.ofText target)
  let headers ← headers.mapM headerOf
  let query := url.query.getD ""
  let body ← match body.encode with
    | .ok _ => pure (body.string?.getD "")
    | .error place => throw (.notEncodable place)
  return {
    method := (method.string?.getD "").toUpper
    scheme := url.scheme
    host := (findHeader headers "host").getD url.place
    path := url.decodedPath
    query := query
    parameters := parametersOf query
    headers := headers
    body := body }

/-- The value of a header. -/
def header? (r : Request) (name : String) : Option String :=
  findHeader r.headers name

/-- The value of a parameter; the last one counts. -/
def parameter? (r : Request) (name : String) : Option String :=
  (r.parameters.reverse.find? fun p => p.1 == name).map Prod.snd

/-- A path with the characters written as bytes that would end it. -/
def closed (path : String) : String :=
  String.join (path.toList.map fun c =>
    if c == '?' then "%3F" else if c == '#' then "%23" else c.toString)

/-- What follows the scheme in the address of a path. -/
def placeOf (r : Request) (path : String) : String :=
  r.host ++ closed path ++ (if r.query.isEmpty then "" else "?" ++ r.query)

/-- The characters that an address keeps as they are, beside letters and
    digits. -/
def keptMarks : List Char := "_.-~:/%#?=@[]!$&'()*+,;".toList

/-- The address of a path, as the caller knows it. -/
def addressOf (r : Request) (path : String) : String :=
  Text.percentEncode (fun c => c.isAlphanum || keptMarks.contains c)
    (r.scheme ++ "://" ++ r.placeOf path)

/-- The path as an address shows it, line breaks and tabs being left out. -/
def shownPath (r : Request) : String :=
  let kept := (r.placeOf r.path).toList.filter fun c => !(['\t', '\n', '\r'].contains c)
  let rest := kept.dropWhile fun c => !(['/', '?', '#'].contains c)
  String.ofList (rest.takeWhile fun c => !(['?', '#'].contains c))

end Request

/-- The content of a response. -/
inductive Content
  | document (value : Json)
  | text (s : String)
  /-- A page for people. -/
  | page
  deriving Inhabited

/-- A response. -/
structure Response where
  status : Nat
  content : Content
  headers : List (String × String)
  deriving Inhabited

namespace Response

/-- A response with a document. -/
def document (status : Nat) (value : Json) : Response :=
  ⟨status, .document value, [("content-type", "application/json")]⟩

/-- A response with a text. -/
def plain (status : Nat) (s : String) : Response :=
  ⟨status, .text s, [("content-type", "text/plain; charset=utf-8")]⟩

/-- A response with a page of some type. -/
def page (type : String) : Response :=
  ⟨200, .page, [("content-type", type)]⟩

/-- A response with a header set. -/
def withHeader (r : Response) (name value : String) : Response :=
  { r with headers := (r.headers.filter fun h => h.1 != name) ++ [(name, value)] }

/-- A response with several headers set. -/
def withHeaders (r : Response) (headers : List (String × String)) : Response :=
  headers.foldl (fun r h => r.withHeader h.1 h.2) r

/-- The value of a header. -/
def header? (r : Response) (name : String) : Option String :=
  findHeader r.headers name

end Response

end Api

end Outreach
