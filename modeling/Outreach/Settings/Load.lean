import Outreach.Input.Lenient
import Outreach.Settings.Basic
import Outreach.Settings.Profile
import Outreach.Text.Lowercase

/-!
# Loading Settings

Settings are read from an object of given values. A value that is not given
comes from a variable of the environment, where it has one, or from a fixed
default. Given values are checked; those from variables are not.

When the service starts, the given values are those of the profile of its
environment. Variables that are set and not empty then replace the settings of
the store and the vendor, again unchecked.

## Main definitions

* `Variables`, `Variables.ofList`: The variables of the environment.
* `DatabaseSettings.read`, `VendorSettings.read`, `ObservationSettings.read`,
  `SecuritySettings.read`, `Settings.read`: Settings from given values.
* `Settings.override`: Settings with variables in place of their own values.
* `Settings.load`: The settings of the service.
-/

namespace Outreach

/-- The variables of the environment, by name. -/
abbrev Variables := String → Option Text

namespace Variables

/-- The value that a variable has once it is set to a text. Variables are kept
    as bytes that end at the first zero, so no text may hold one. -/
def stored (value : Text) : Except Fault Text := do
  -- Halves that stand for single bytes are joined to the characters they form.
  match value.roundTrip with
  | .error place => throw (.notEncodable place)
  | .ok t =>
    if t.points.contains (.char '\x00') then throw (.foreign "ValueError" "embedded null byte")
    return t

/-- The variables that are set to some texts. -/
def ofList (values : List (Text × Text)) : Except Fault Variables := do
  let all ← values.mapM fun (name, value) => do return (← stored name, ← stored value)
  return fun name => (all.find? fun v => v.1 = (name : Text)).map Prod.snd

/-- The value of a variable, or a default. -/
def text (vars : Variables) (name default : String) : Text :=
  (vars name).getD default

/-- The integer that a text denotes. -/
def integerOf (text : Text) : Except Fault Int :=
  match text.readInt with
  | .ok n => .ok n
  | .error refusal => .error (.notAnInteger text refusal)

/-- The double that a text denotes. -/
def doubleOf (text : Text) : Except Fault Double :=
  match text.readDouble? with
  | some x => .ok x
  | none => .error (.notADouble text)

/-- A default that is computed. -/
def computed {α : Type} : Except Fault α → Checked α
  | .ok a => .value a
  | .error f => .flawed (.fault f)

end Variables

/-- A given text that may be absent. -/
def optionalText (v : Json) : Except IssueKind (Option Text) :=
  match v with
  | .null => .ok none
  | v => (Lenient.text v).map some

/-- Whether a text is one of some words. -/
def isOneOf (words : List String) (t : Text) : Bool :=
  words.any fun w => t = (w : Text)

/-- The wording of a list of allowed words. -/
def shownWords (words : List String) : String :=
  "[" ++ ", ".intercalate (words.map fun w => (Text.ofString w).quoted) ++ "]"

open Variables

namespace DatabaseSettings

/-- A kind of store. -/
def readBackend (v : Json) : Checked Text :=
  (Checked.ofValue (Lenient.text v)).require (isOneOf backends)
    (.forbidden ("Database backend must be one of " ++ shownWords backends))

/-- The settings of the store, from given values. -/
def read (vars : Variables) (ms : List (Text × Json)) : Checked DatabaseSettings :=
  (Checked.value DatabaseSettings.mk)
    |>.ap (readMember ms "backend" readBackend (.value (text vars "DB_BACKEND" "postgres")))
    |>.ap (given ms "host" Lenient.text (.value (text vars "DB_HOST" "localhost")))
    |>.ap (given ms "port" Lenient.integer (computed (integerOf (text vars "DB_PORT" "5432"))))
    |>.ap (given ms "database" Lenient.text (.value (text vars "DB_NAME" "campaign_engine")))
    |>.ap (given ms "username" Lenient.text (.value (text vars "DB_USER" "postgres")))
    |>.ap (given ms "password" Lenient.text (.value (text vars "DB_PASSWORD" "postgres")))
    |>.ap (given ms "pool_size" Lenient.integer (.value 20))
    |>.ap (given ms "max_overflow" Lenient.integer (.value 10))
    |>.ap (given ms "echo" Lenient.boolean (.value false))

end DatabaseSettings

namespace VendorSettings

/-- A rate of success. -/
def readRate (v : Json) : Checked Double :=
  (Checked.ofValue (Lenient.double v)).require isProbability
    (.forbidden "success_rate must be between 0 and 1")

/-- A decimal default. -/
def defaultDouble (num den : Nat) : Checked Double :=
  .value (Double.ofRatio false num den)

/-- The settings of the vendor, from given values. -/
def read (vars : Variables) (ms : List (Text × Json)) : Checked VendorSettings :=
  -- The bounds of the jitters are compared only when all settings can be read.
  let settings :=
    (Checked.value VendorSettings.mk)
      |>.ap (readMember ms "success_rate" readRate
        (computed (doubleOf (text vars "VENDOR_SUCCESS_RATE" "0.9"))))
      |>.ap (given ms "dispatch_jitter_min" Lenient.double (defaultDouble 0 1))
      |>.ap (given ms "dispatch_jitter_max" Lenient.double (defaultDouble 5 1))
      |>.ap (given ms "response_jitter_min" Lenient.double (defaultDouble 1 1))
      |>.ap (given ms "response_jitter_max" Lenient.double (defaultDouble 3 1))
      |>.ap (given ms "callback_url" optionalText (.value (vars "VENDOR_CALLBACK_URL")))
      |>.ap (given ms "callback_timeout" Lenient.double (defaultDouble 10 1))
  settings.andThen fun s =>
    match s.jitterFlaw? with
    | some reason => .issue (.forbidden reason)
    | none => .value s

end VendorSettings

/-- The settings of metrics and log, from given values. -/
def ObservationSettings.read (vars : Variables) (ms : List (Text × Json)) :
    Checked ObservationSettings :=
  (Checked.value ObservationSettings.mk)
    |>.ap (given ms "enable_metrics" Lenient.boolean (.value true))
    |>.ap (given ms "metrics_path" Lenient.text (.value "/metrics"))
    |>.ap (given ms "log_level" Lenient.text (.value (text vars "LOG_LEVEL" "INFO")))
    |>.ap (given ms "log_format" Lenient.text (.value (text vars "LOG_FORMAT" "json")))
    |>.ap (given ms "log_file" optionalText (.value none))

/-- The settings for callers from other origins, from given values. -/
def SecuritySettings.read (ms : List (Text × Json)) : Checked SecuritySettings :=
  let readOrigins (v : Json) : Checked (List Text) :=
    (Checked.ofValue (Lenient.list v)).andThen fun origins =>
      Checked.items (fun o => Checked.ofValue (Lenient.text o)) 0 origins
  (Checked.value SecuritySettings.mk)
    |>.ap (readMember ms "cors_origins" readOrigins (.value [("*" : Text)]))
    |>.ap (given ms "cors_allow_credentials" Lenient.boolean (.value true))

namespace Settings

/-- A part of the settings, which must be an object. -/
def readPart {α : Type} (read : List (Text × Json) → Checked α) (v : Json) : Checked α :=
  match v with
  | .object ms => read ms
  | _ => .issue .notObject

/-- An environment. -/
def readEnvironment (v : Json) : Checked Text :=
  (Checked.ofValue (Lenient.text v)).require (isOneOf environments)
    (.forbidden ("Environment must be one of " ++ shownWords environments))

/-- All settings, from given values. -/
def read (vars : Variables) (ms : List (Text × Json)) : Checked Settings :=
  let debug := (text vars "DEBUG" "false").lowercase = ("true" : Text)
  -- A part that is not given is read as an empty object, so it has all its defaults.
  (Checked.value Settings.mk)
    |>.ap (readMember ms "environment" readEnvironment (.value (text vars "ENVIRONMENT" "dev")))
    |>.ap (given ms "debug" Lenient.boolean (.value debug))
    |>.ap (given ms "app_name" Lenient.text (.value "Campaign Engine"))
    |>.ap (given ms "app_version" Lenient.text (.value "1.0.0"))
    |>.ap (given ms "api_prefix" Lenient.text (.value "/api"))
    |>.ap (given ms "host" Lenient.text (.value "0.0.0.0"))
    |>.ap (given ms "port" Lenient.integer (.value 8000))
    |>.ap (readMember ms "database" (readPart (DatabaseSettings.read vars))
      (DatabaseSettings.read vars []))
    |>.ap (readMember ms "vendor" (readPart (VendorSettings.read vars))
      (VendorSettings.read vars []))
    |>.ap (readMember ms "observability" (readPart (ObservationSettings.read vars))
      (ObservationSettings.read vars []))
    |>.ap (readMember ms "security" (readPart SecuritySettings.read) (SecuritySettings.read []))

/-- The value of a variable that is set and not empty, or a default. -/
def orElse (vars : Variables) (name : String) (default : Text) : Text :=
  match vars name with
  | some s => if s.isEmpty then default else s
  | none => default

/-- The settings of the store, with variables in place of their own values. -/
def overrideDatabase (vars : Variables) (s : DatabaseSettings) : Except Fault DatabaseSettings := do
  -- A number is the only kind of variable that can spoil the settings here.
  let port ←
    match vars "DB_PORT" with
    | some t => if t.isEmpty then pure s.port else integerOf t
    | none => pure s.port
  return { s with
    backend := orElse vars "DB_BACKEND" s.backend
    host := orElse vars "DB_HOST" s.host
    port := port
    database := orElse vars "DB_NAME" s.database
    username := orElse vars "DB_USER" s.username
    password := orElse vars "DB_PASSWORD" s.password }

/-- The settings of the vendor, with variables in place of their own
    values. -/
def overrideVendor (vars : Variables) (s : VendorSettings) : Except Fault VendorSettings := do
  let rate ←
    match vars "VENDOR_SUCCESS_RATE" with
    | some t => if t.isEmpty then pure s.successRate else doubleOf t
    | none => pure s.successRate
  let url :=
    match vars "VENDOR_CALLBACK_URL" with
    | some t => if t.isEmpty then s.callbackUrl else some t
    | none => s.callbackUrl
  return { s with successRate := rate, callbackUrl := url }

/-- Settings with variables in place of their own values. -/
def override (vars : Variables) (s : Settings) : Except Fault Settings := do
  let database ← overrideDatabase vars s.database
  let vendor ← overrideVendor vars s.vendor
  return { s with database := database, vendor := vendor }

/-- The values given by the profile of the environment. -/
def profileMembers (vars : Variables) : List (Text × Json) :=
  let environment := text vars "ENVIRONMENT" "dev"
  let members := (Profile.of environment).map fun m => (Text.ofString m.1, m.2)
  Json.putMember members (Text.ofString "environment") (.text environment)

/-- The settings of the service. -/
def load (vars : Variables) : Checked Settings :=
  (read vars (profileMembers vars)).andThen fun s => computed (override vars s)

end Settings

end Outreach
