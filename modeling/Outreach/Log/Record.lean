import Outreach.Json.Writer
import Outreach.Log.Scope
import Outreach.Log.Template
import Outreach.Number.Arithmetic
import Outreach.Time.Iso

/-!
# Log Records

A record of the log and its text as a JSON document on one line.

A record has attributes of its own. The fields of its context are set on it,
and may replace its own attributes, even all at once; further fields of the
call may not. In the document stand the time, the level, the logger, the
message and the exception, if there is one, and then every other field, except
those whose name is reserved or starts with an underscore. A field that repeats
a name keeps the place of the first value.

## Main definitions

* `Log.levelName`: The name of a level by its number.
* `Log.Attributes`: What a record holds.
* `Log.Record`: A record.
* `Log.Record.create`: A record in a context with further fields.
* `Log.Record.message`: The message with its places filled.
* `Log.Record.toJson`, `Log.Record.text`: The document.
-/

namespace Outreach

namespace Log

/-- The named levels. -/
def levels : List (Int × String) :=
  [(50, "CRITICAL"), (40, "ERROR"), (30, "WARNING"), (20, "INFO"), (10, "DEBUG"), (0, "NOTSET")]

/-- The name of a level by its number. -/
def levelName (n : Int) : String :=
  ((levels.find? fun l => l.1 = n).map Prod.snd).getD ("Level " ++ toString n)

/-- The names of the attributes that every record has of its own. -/
def ownNames : List String :=
  ["name", "msg", "args", "levelname", "levelno", "pathname", "filename", "module", "exc_info",
    "exc_text", "stack_info", "lineno", "funcName", "created", "msecs", "relativeCreated",
    "thread", "threadName", "processName", "process"]

/-- The names that no field may be shown under. -/
def reservedNames : List String :=
  ownNames ++ ["taskName", "message", "asctime"]

/-- The value of an attribute. -/
inductive AttributeValue
  | value (v : Value)
  /-- The arguments of a message, one by one. -/
  | arguments (vs : List Json)
  /-- An exception, as the text that reports it. -/
  | exception (report : Text)
  deriving Inhabited

/-- The attributes of a record. -/
abbrev Attributes := Named AttributeValue

/-- The report of an exception with a text of its own. -/
def exceptionReport (text : Text) : Text :=
  if text.isEmpty then "ValueError" else "ValueError: " ++ text

/-- The report of an exception, if there is one. An exception has three parts,
    and a value that has not is none; neither is one whose parts are plain
    values, unless the last two are missing. -/
def AttributeValue.exceptionReport? : AttributeValue → Except Fault (Option Text)
  | .exception report => .ok (some report)
  | .arguments _ => .error .wrongType
  | .value (.id _) => .error .wrongType
  | .value (.other ..) => .error .wrongType
  | .value (.json v) =>
    -- What counts as false is no exception, whatever its type.
    if v.isEmptyLike then .ok none
    else
      match v with
      | .text t =>
        if t.length < 3 then .error (.foreign "IndexError" "string index out of range")
        else .error .noAttribute
      | .list vs =>
        match vs with
        | _ :: .null :: .null :: _ => .ok (some "NoneType: None")
        | _ :: _ :: _ :: _ => .error .noAttribute
        | _ => .error (.foreign "IndexError" "list index out of range")
      | .object _ => .error .noMember
      | _ => .error .wrongType

/-- A record of the log. -/
structure Record where
  /-- The time of the record, in seconds from 1970. -/
  created : Double
  attributes : Attributes
  deriving Inhabited

namespace Record

/-- The value of an attribute, which must be there. -/
def get (r : Record) (name : Text) : Except Fault AttributeValue :=
  match Named.value? r.attributes name with
  | some v => .ok v
  | none => .error .noAttribute

/-- Whether a record has an attribute. -/
def has (r : Record) (name : Text) : Bool :=
  r.attributes.any fun a => a.1 = name

/-- Set an attribute to the value of a field. -/
def put (r : Record) (name : Text) (value : Value) : Record :=
  { r with attributes := Named.put r.attributes name (.value value) }

/-- The name under which all attributes are replaced at once. -/
def allName : Text := "__dict__"

/-- Set an attribute from a context. All attributes can be replaced at once, by
    the members of an object; what a record is cannot be changed. -/
def set (r : Record) (name : Text) (value : Value) : Except Fault Record :=
  if name = allName then
    match value with
    | .json (.object ms) =>
      .ok { r with attributes := ms.map fun m => (m.1, .value (.json m.2)) }
    | _ => .error .wrongType
  else if name = ("__class__" : Text) then .error .wrongType
  else if name = ("__weakref__" : Text) then .error .noAttribute
  else .ok (r.put name value)

/-- Set a further field, which may not replace an attribute. -/
def setFurther (r : Record) (name : Text) (value : Value) : Except Fault Record :=
  if name = ("message" : Text) || name = ("asctime" : Text) || r.has name then .error .noMember
  else .ok (r.put name value)

/-- The arguments of a message: a single one that has members is asked by their
    names. -/
def argumentsValue : List Json → AttributeValue
  | [.object ms] =>
    -- An empty object has no members to ask for and stays an argument like any other.
    if ms.isEmpty then .arguments [.object ms] else .value (.json (.object ms))
  | vs => .arguments vs

/-- The value of an attribute that a record has of its own; those that no
    document shows have none. -/
def ownValue (level : Int) (logger : Text) (template : Json) (args : List Json)
    (exception : Option Text) (name : String) : AttributeValue :=
  match name with
  | "name" => .value (.json (.text logger))
  | "msg" => .value (.json template)
  | "args" => argumentsValue args
  | "levelname" => .value (.json (levelName level))
  | "exc_info" =>
    match exception with
    | some text => .exception (exceptionReport text)
    | none => .value (.json .null)
  | _ => .value (.json .null)

/-- A record with the attributes of its own. -/
def ofCall (created : Double) (level : Int) (logger : Text) (template : Json) (args : List Json)
    (exception : Option Text) : Record :=
  ⟨created, ownNames.map fun name =>
    (Text.ofString name, ownValue level logger template args exception name)⟩

/-- A record in a context, with further fields. -/
def create (created : Double) (level : Int) (logger : Text) (template : Json) (args : List Json)
    (exception : Option Text) (context : Named Value) (further : Fields) : Except Fault Record := do
  let own := ofCall created level logger template args exception
  -- The context comes first: a further field may not repeat one of its names.
  let inContext ← context.foldlM (fun r f => r.set f.1 f.2) own
  further.foldlM (fun r f => r.setFurther f.1 f.2.value) inContext

/-- An attribute as a text. -/
def plainValue : AttributeValue → Text
  | .value v => v.plain
  | .arguments vs => (Json.list vs).plain
  | .exception report => report

/-- Whether an attribute can be put into words. -/
def fitsDigits : AttributeValue → Bool
  | .value v => v.fitsDigits
  | .arguments vs => Log.fitsDigits (.list vs)
  | .exception _ => true

/-- The arguments that an attribute gives, if any. -/
def argumentsOf? : AttributeValue → Option Arguments
  | .arguments [] => none
  | .arguments vs => some (.list vs)
  | .value v => if v.isEmptyLike then none else some (.single v)
  | .exception _ => none

/-- A template whose places are filled, if there is anything to fill them. -/
def filled (template : Text) (arguments : AttributeValue) : Except Fault Text :=
  match argumentsOf? arguments with
  | some args => fill template args
  | none => .ok template

/-- The name of the function that yields the message; an attribute of that name
    hides it. -/
def messageName : Text := "getMessage"

/-- The message, with its places filled. -/
def message (r : Record) : Except Fault Text := do
  if r.has messageName then throw .wrongType
  let template ← r.get "msg"
  if !fitsDigits template then throw overlong
  filled (plainValue template) (← r.get "args")

/-- The value of a field that stands in the document as it is. -/
def ownForm? : AttributeValue → Option Json
  | .value (.json (.list _)) => none
  | .value (.json (.object _)) => none
  | .value v => v.json?
  | _ => none

/-- A field as a member of the document: what has no form of its own is put
    into words. -/
def memberValue (v : AttributeValue) : Json :=
  (ownForm? v).getD (.text (plainValue v))

/-- The value of an attribute that is put into the document as it is; an
    identifier has no form of its own. -/
def raw (r : Record) (name : Text) : Except Fault (Option Json) := do
  match ← r.get name with
  | .value v => return v.json?
  | v => return some (memberValue v)

/-- The microseconds of 1970 from year 1. -/
def epochMicros : Int := (Date.dayNumber ⟨1970, 1, 1⟩ * dayMicros : Nat)

/-- The microseconds of a number of seconds: the fraction is scaled as a double
    and then rounded, a half going to the even neighbour. -/
def microsOf (x : Double) : Int :=
  let whole := x.truncate
  let fraction := (x.sub (Double.ofInt whole)).mul (Double.ofInt secondMicros)
  let micros := Double.signed (decide (fraction.scaled < 0))
    (roundHalfEven fraction.scaled.natAbs Double.unit)
  whole * secondMicros + micros

/-- The year that a number of microseconds from 1970 falls into. -/
def yearOf (micros : Int) : Int :=
  -- The calendar repeats after 400 years, which brings any day into its range.
  let days := Int.fdiv (micros + epochMicros) dayMicros
  let cycle := Int.fdiv days 146097
  (Date.ofDayNumber (days - cycle * 146097).toNat).year + cycle * 400

/-- The years that a calendar year can be, counted from 1900. -/
def yearLimit : Nat := twoTo 31

/-- The fault of a time whose year does not exist. A year that is too large for
    its field in a calendar has a fault of its own; otherwise the year is
    counted in words of 32 bits. -/
def yearFault (year : Int) : Fault :=
  let sinceCentury := year - 1900
  if -(yearLimit : Int) ≤ sinceCentury ∧ sinceCentury < yearLimit then
    .badTemplate ("year " ++ toString (year.bmod (2 * yearLimit)) ++ " is out of range")
  else .foreign "OSError" "[Errno 75] Value too large for defined data type"

/-- The time of a record, whose whole seconds must fit into a machine word. -/
def time (r : Record) : Except Fault Timestamp :=
  if r.created.isNaN then .error (.badTemplate "Invalid value NaN (not a number)")
  else
    let micros := microsOf r.created
    let seconds := Int.fdiv micros secondMicros
    if r.created.isInfinite ∨ seconds < -wordLimit ∨ wordLimit ≤ seconds then
      .error (.foreign "OverflowError" "timestamp out of range for platform time_t")
    else
      match Timestamp.ofWall? (micros + epochMicros) (some 0) with
      | some t => .ok t
      | none => .error (yearFault (yearOf micros))

/-- Whether a field is shown. -/
def isShown (name : Text) : Bool :=
  !(reservedNames.any fun own => name = (own : Text)) && name.points.head? != some (.char '_')

/-- The members of the document that every record has. One whose value has no
    form of its own is left open. -/
def ownMembers (r : Record) : Except Fault (Named (Option Json)) := do
  let time ← r.time
  let level ← r.raw "levelname"
  let logger ← r.raw "name"
  let message ← r.message
  let members : Named (Option Json) :=
    [("timestamp", some (.string time.iso)), ("level", level), ("logger", logger),
      ("message", some (.text message))]
  match ← (← r.get "exc_info").exceptionReport? with
  | none => return members
  | some text => return members ++ [(Text.ofString "exception", some (.text text))]

/-- A member of the document, if its value can be written. -/
def writable (member : Text × Option Json) : Except Fault (Text × Json) :=
  match member.2 with
  | some v => if Log.fitsDigits v then .ok (member.1, v) else .error overlong
  | none => .error .wrongType

/-- The document of a record. -/
def toJson (r : Record) : Except Fault Json := do
  let own ← r.ownMembers
  let shown := r.attributes.filter fun a => isShown a.1
  -- Fields are put into words before anything is written.
  if shown.any fun a => (ownForm? a.2).isNone && !fitsDigits a.2 then throw overlong
  -- A field named like a member of the document replaces it in its place.
  let members := Named.merge own (shown.map fun a => (a.1, some (memberValue a.2)))
  return .object (← members.mapM writable)

/-- The text of a record. -/
def text (r : Record) : Except Fault String :=
  return Json.write Json.airy (← r.toJson)

end Record

end Log

end Outreach
