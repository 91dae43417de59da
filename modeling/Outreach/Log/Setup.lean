import Outreach.Log.Record

/-!
# Setting the Log Up

The log is written to standard output and, if a file is given, to that file as
well, as JSON documents or as plain lines. Records below the threshold are
dropped.

The threshold is given by a name in any case; an unknown name means that of
information. A file that cannot be opened leaves a warning.

## Main definitions

* `Log.threshold`: The threshold of a name.
* `Log.Destination`: The file that is asked for.
* `Log.Setup`: The log as it is set up.
* `Log.Setup.create`, `Log.Setup.write`: Setting up and writing.
-/

namespace Outreach

namespace Log

/-- The characters beyond ASCII whose upper case form is in ASCII. -/
def upperForms : List (Char × String) :=
  [('ß', "SS"), ('ı', "I"), ('ſ', "S"), ('ﬀ', "FF"), ('ﬁ', "FI"), ('ﬂ', "FL"), ('ﬃ', "FFI"),
    ('ﬄ', "FFL"), ('ﬅ', "ST"), ('ﬆ', "ST")]

/-- The upper case form of a point, as far as it is in ASCII. -/
def upperPoint (p : Point) : List Point :=
  match p with
  | .half _ => [p]
  | .char c =>
    match upperForms.find? fun f => f.1 == c with
    | some form => form.2.toList.map .char
    | none => [.char (if c.toNat < 0x80 then c.toUpper else c)]

/-- The thresholds by name. -/
def thresholds : List (String × Int) :=
  [("CRITICAL", 50), ("FATAL", 50), ("ERROR", 40), ("WARNING", 30), ("WARN", 30), ("INFO", 20),
    ("DEBUG", 10), ("NOTSET", 0)]

/-- Names that stand for a form of lines instead of a threshold. -/
def lineForms : List (String × String) :=
  [("BASIC_FORMAT", "%(levelname)s:%(name)s:%(message)s")]

/-- Names that stand for something else altogether. -/
def foreignNames : List String := ["_STYLES"]

/-- The threshold of a name. -/
def threshold (name : Text) : Except Fault Int :=
  let word : Text := ⟨name.points.flatMap upperPoint⟩
  match lineForms.find? fun f => word = (f.1 : Text) with
  | some form => .error (.badTemplate ("Unknown level: " ++ (form.2 : Text).quoted))
  | none =>
    if foreignNames.any fun f => word = (f : Text) then .error .wrongType
    else .ok (((thresholds.find? fun t => word = (t.1 : Text)).map Prod.snd).getD 20)

/-- The form of lines. -/
inductive Form
  | json
  | text
  deriving DecidableEq, Inhabited

/-- The form with a name; every other name means plain lines. -/
def Form.ofName (name : Text) : Form :=
  if name = ("json" : Text) then .json else .text

/-- The file that is asked for. -/
inductive Destination
  | none
  | file
  /-- A file that cannot be opened: its path and the reason. -/
  | refused (path reason : Text)
  deriving DecidableEq, Inhabited

/-- A line as it is written, apart from its time. -/
structure Written where
  logger : Text
  level : String
  message : Text
  deriving DecidableEq, Inhabited

/-- A plain line, without its time. -/
def Written.plain (w : Written) : Text :=
  w.logger ++ " - " ++ w.level ++ " - " ++ w.message

/-- A line as a JSON document, without its time. -/
def Written.toJson (w : Written) : Json :=
  .record [("level", .string w.level), ("logger", .text w.logger),
    ("message", .text w.message)]

/-- The log as it is set up. -/
structure Setup where
  threshold : Int
  form : Form
  hasFile : Bool
  /-- The lines on standard output, in order. -/
  lines : List Written
  /-- The lines in the file, in order. -/
  fileLines : List Written

namespace Setup

/-- Whether a record of a level is written; levels of zero and below never
    are. -/
def admits (s : Setup) (level : Int) : Bool :=
  decide (0 < level) && decide (s.threshold ≤ level)

/-- Whether a line can be written to a file. Documents always can; a plain line
    must have bytes. -/
def fits (s : Setup) (line : Written) : Bool :=
  match s.form with
  | .json => true
  | .text => line.plain.encode.toBool

/-- Write a record. -/
def write (s : Setup) (level : Int) (logger message : Text) : Setup :=
  if s.admits level then
    let line : Written := ⟨logger, levelName level, message⟩
    { s with
      lines := s.lines ++ [line]
      fileLines := if s.hasFile && s.fits line then s.fileLines ++ [line] else s.fileLines }
  else s

/-- Set the log up. -/
def create (level format : Text) (destination : Destination) : Except Fault Setup := do
  let limit ← Log.threshold level
  let s : Setup := ⟨limit, Form.ofName format, false, [], []⟩
  match destination with
  | .none => return s
  | .file => return { s with hasFile := true }
  | .refused path reason =>
    return s.write 30 "root" ("Failed to setup file logging at " ++ path ++ ": " ++ reason)

end Setup

end Log

end Outreach
