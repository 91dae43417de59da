import Outreach.Proofs.Rule.Meaning
import Outreach.Proofs.Settings.Load

/-!
# Which Source of a Setting Counts

A setting may be given by a file, by a variable, or by neither. For the store and the vendor
variables count first: whatever was read is replaced at the end. All other variables are only
looked at while settings are read, as defaults for what the file does not give. So the file
hides the variables for the log and for debugging, although it is variables that are meant to
override it.

What follows holds of any file that can be loaded where no variable is set, and the files of
all environments can.

## Main definitions

* `Setting.VariableFirst`, `Setting.FileFirst`: The two orders of sources.
* `DatabaseSettings.Sourced`, `VendorSettings.Sourced`, `Settings.Sourced`: Settings and their
  sources.
* `Variables.Sound`: Variables whose values can be read.
* `Settings.loadFrom`: Settings loaded over any file.

## Theorems

* `Setting.exists_readMember`: A member that can be read can be read with any default.
* `Setting.FileFirst.replaced`: Replacing a value makes its variable count first.
* `Settings.exists_read`: What is read puts the file first.
* `Settings.exists_override`: What is replaced puts variables first.
* `Settings.variables_prevail`: The sources of all loaded settings.
* `Settings.variables_hidden`: Variables that the file hides.
-/

namespace Outreach

open Variables Checked

namespace Setting

variable {α : Type}

/-- What the value of a setting in a file is read as, if the file gives one. -/
def inFile (ms : List (Text × Json)) (name : String) (read : Json → Checked α) :
    Option (Checked α) :=
  (Json.find? ms (Text.ofString name)).map read

/-- The value in the file, if it gives one, or else a value to fall back on. -/
def OrElse (ofFile : Option (Checked α)) (fallback a : α) : Prop :=
  match ofFile with
  | some read => read = .value a
  | none => a = fallback

/-- The value of the variable, if it is set, else that of the file, if it gives one, or else the
    default. -/
def VariableFirst (ofVariable : Option α) (ofFile : Option (Checked α)) (default a : α) : Prop :=
  match ofVariable with
  | some x => a = x
  | none => OrElse ofFile default a

/-- The value of the file, if it gives one, else that of the variable, if it is set, or else the
    default. -/
def FileFirst (ofVariable : Option α) (ofFile : Option (Checked α)) (default a : α) : Prop :=
  OrElse ofFile (ofVariable.getD default) a

/-- The value of a setting that has no variable. -/
abbrev NoVariable (ofFile : Option (Checked α)) (default a : α) : Prop :=
  FileFirst none ofFile default a

/-- An order of sources. -/
abbrev Precedence : Type 1 := ∀ α : Type, Option α → Option (Checked α) → α → α → Prop

/-- A member is read from the file, or else has its default. -/
theorem orElse_of_readMember {ms : List (Text × Json)} {name : String} {read : Json → Checked α}
    {fallback a : α} (h : readMember ms name read (.value fallback) = .value a) :
    OrElse (inFile ms name read) fallback a := by
  rw [readMember] at h
  rw [inFile]
  cases hfound : Json.find? ms (Text.ofString name) with
  | none =>
      rw [hfound] at h
      exact (value.inj h).symm
  | some v =>
      rw [hfound] at h
      exact under_eq_value_iff.1 h

/-- A member that can be read can be read with any default, for only one that is not given has
    the default. -/
theorem exists_readMember {ms : List (Text × Json)} {name : String} {read : Json → Checked α}
    {default : Checked α} {b : α} (h : readMember ms name read default = .value b) (fallback : α) :
    ∃ a, readMember ms name read (.value fallback) = .value a ∧
      OrElse (inFile ms name read) fallback a := by
  have hread : ∃ a, readMember ms name read (.value fallback) = .value a := by
    rw [readMember] at h ⊢
    cases hfound : Json.find? ms (Text.ofString name) with
    | none => exact ⟨fallback, rfl⟩
    | some v =>
        rw [hfound] at h
        exact ⟨b, h⟩
  rcases hread with ⟨a, ha⟩
  exact ⟨a, ha, orElse_of_readMember ha⟩

/-- Replacing a value by that of its variable makes the variable count first. -/
theorem FileFirst.replaced {ofVariable : Option α} {ofFile : Option (Checked α)} {default a : α}
    (h : FileFirst ofVariable ofFile default a) :
    VariableFirst ofVariable ofFile default (ofVariable.getD a) := by
  cases ofVariable with
  | none => exact h
  | some x => exact rfl

theorem VariableFirst.eq_of_variable {ofVariable : Option α} {ofFile : Option (Checked α)}
    {default a x : α} (h : VariableFirst ofVariable ofFile default a)
    (hset : ofVariable = some x) : a = x := by
  subst hset
  exact h

theorem FileFirst.eq_of_file {ofVariable : Option α} {ofFile : Option (Checked α)}
    {default a x : α} (h : FileFirst ofVariable ofFile default a)
    (hgiven : ofFile = some (.value x)) : a = x := by
  subst hgiven
  exact (value.inj h).symm

end Setting

open Setting

/-! ## Variables -/

namespace Variables

/-- What a variable denotes, if it is set and can be read. -/
def denoted? {α : Type} (vars : Variables) (name : String) (read : Text → Except Fault α) :
    Option α :=
  (vars name).bind fun t => (read t).toOption

/-- Whether a variable that is set says so. -/
def flag? (vars : Variables) (name : String) : Option Bool :=
  (vars name).map fun t => decide (t.lowercase = ("true" : Text))

/-- The variables that replace what was read. -/
def replacing : List String :=
  ["DB_BACKEND", "DB_HOST", "DB_PORT", "DB_NAME", "DB_USER", "DB_PASSWORD", "VENDOR_SUCCESS_RATE",
    "VENDOR_CALLBACK_URL"]

/-- Variables whose values can be read: none that replaces what was read is empty, and those for
    numbers denote some. -/
structure Sound (vars : Variables) : Prop where
  filled : ∀ name ∈ replacing, ∀ t, vars name = some t → t.isEmpty = false
  port : ∀ t, vars "DB_PORT" = some t → ∃ n, integerOf t = .ok n
  rate : ∀ t, vars "VENDOR_SUCCESS_RATE" = some t → ∃ x, doubleOf t = .ok x

variable {vars : Variables}

/-- What can be asked of the variables one by one. -/
theorem sound_iff : vars.Sound ↔
    (∀ name ∈ replacing, (vars name).all (!·.isEmpty) = true) ∧
      (vars "DB_PORT").all (fun t => (integerOf t).isOk) = true ∧
      (vars "VENDOR_SUCCESS_RATE").all (fun t => (doubleOf t).isOk) = true := by
  simp only [Option.all_eq_true, Bool.not_eq_true', Rule.exists_ok_iff]
  exact ⟨fun h => ⟨h.filled, h.port, h.rate⟩, fun h => ⟨h.1, h.2.1, h.2.2⟩⟩

instance : Decidable vars.Sound := decidable_of_iff' _ sound_iff

theorem integerOf_eq_ok_iff {t : Text} {n : Int} : integerOf t = .ok n ↔ t.readInt = .ok n := by
  rw [integerOf]
  cases t.readInt with
  | ok m => rw [Except.ok.injEq, Except.ok.injEq]
  | error refusal => exact iff_of_false nofun nofun

/-- A default that is computed from a variable, or else from a text. -/
theorem computed_eq {α : Type} {name default : String} {read : Text → Except Fault α} {a : α}
    (hread : ∀ t, vars name = some t → ∃ b, read t = .ok b)
    (hdefault : read (default : Text) = .ok a) :
    computed (read (text vars name default)) = .value ((vars.denoted? name read).getD a) := by
  rw [text, denoted?]
  cases hvar : vars name with
  | none => exact computed_eq_value_iff.2 hdefault
  | some t =>
      rcases hread t hvar with ⟨b, hb⟩
      rw [Option.getD_some, Option.bind_some, hb]
      rfl

/-- A value that is replaced by what a variable denotes, if it is set. -/
theorem replaced_eq {α : Type} {name : String} {read : Text → Except Fault α} (a : α)
    (hfilled : ∀ t, vars name = some t → t.isEmpty = false)
    (hread : ∀ t, vars name = some t → ∃ b, read t = .ok b) :
    (match vars name with
      | some t => if t.isEmpty then .ok a else read t
      | none => .ok a) = Except.ok ((vars.denoted? name read).getD a) := by
  rw [denoted?]
  cases hvar : vars name with
  | none => rfl
  | some t =>
      rcases hread t hvar with ⟨b, hb⟩
      simp only [hfilled t hvar, Bool.false_eq_true, if_false, Option.bind_some, hb]
      rfl

/-- A variable that replaces a text does so if it is set. -/
theorem Sound.orElse_eq (h : vars.Sound) {name : String} (hname : name ∈ replacing) (t : Text) :
    Settings.orElse vars name t = (vars name).getD t := by
  rw [Settings.orElse]
  cases hvar : vars name with
  | none => rfl
  | some value =>
      simp only [h.filled name hname value hvar, Bool.false_eq_true, if_false, Option.getD_some]

theorem flag_eq (vars : Variables) :
    decide ((text vars "DEBUG" "false").lowercase = ("true" : Text)) =
      (vars.flag? "DEBUG").getD false := by
  rw [text, flag?]
  cases vars "DEBUG" with
  | none => decide +kernel
  | some t => rfl

end Variables

/-! ## The store -/

namespace DatabaseSettings

/-- The settings of the store and their sources; those that have a variable have them in a given
    order. -/
structure Sourced (order : Precedence) (vars : Variables) (ms : List (Text × Json))
    (d : DatabaseSettings) : Prop where
  backend : order _ (vars "DB_BACKEND") (inFile ms "backend" readBackend) "postgres" d.backend
  host : order _ (vars "DB_HOST") (inFile ms "host" (.ofValue <| Lenient.text ·)) "localhost"
    d.host
  port : order _ (vars.denoted? "DB_PORT" integerOf)
    (inFile ms "port" (.ofValue <| Lenient.integer ·)) 5432 d.port
  database : order _ (vars "DB_NAME") (inFile ms "database" (.ofValue <| Lenient.text ·))
    "campaign_engine" d.database
  username : order _ (vars "DB_USER") (inFile ms "username" (.ofValue <| Lenient.text ·))
    "postgres" d.username
  password : order _ (vars "DB_PASSWORD") (inFile ms "password" (.ofValue <| Lenient.text ·))
    "postgres" d.password
  poolSize : NoVariable (inFile ms "pool_size" (.ofValue <| Lenient.integer ·)) 20 d.poolSize
  maxOverflow : NoVariable (inFile ms "max_overflow" (.ofValue <| Lenient.integer ·)) 10
    d.maxOverflow
  echo : NoVariable (inFile ms "echo" (.ofValue <| Lenient.boolean ·)) false d.echo

variable {vars others : Variables} {ms : List (Text × Json)} {d₀ : DatabaseSettings}

/-- Settings that can be read with some variables can be read with others, and put the file
    first. -/
theorem exists_read (h : read others ms = .value d₀)
    (hport : ∀ t, vars "DB_PORT" = some t → ∃ n, integerOf t = .ok n) :
    ∃ d, read vars ms = .value d ∧ d.Sourced @FileFirst vars ms := by
  rw [read, eq_value_iff] at h
  simp only [exists_ap_iff, value.injEq, exists_eq_left'] at h
  rcases h with ⟨_, hbackend, _, hhost, _, hport₀, _, hdatabase, _, husername, _, hpassword,
    _, hpool, _, hoverflow, _, hecho, -⟩
  rcases exists_readMember hbackend (text vars "DB_BACKEND" "postgres") with ⟨b, hb, hb'⟩
  rcases exists_readMember hhost (text vars "DB_HOST" "localhost") with ⟨h, hh, hh'⟩
  rcases exists_readMember hport₀ ((vars.denoted? "DB_PORT" integerOf).getD 5432) with ⟨p, hp, hp'⟩
  rcases exists_readMember hdatabase (text vars "DB_NAME" "campaign_engine") with ⟨n, hn, hn'⟩
  rcases exists_readMember husername (text vars "DB_USER" "postgres") with ⟨u, hu, hu'⟩
  rcases exists_readMember hpassword (text vars "DB_PASSWORD" "postgres") with ⟨w, hw, hw'⟩
  rcases exists_readMember hpool 20 with ⟨s, hs, hs'⟩
  rcases exists_readMember hoverflow 10 with ⟨o, ho, ho'⟩
  rcases exists_readMember hecho false with ⟨e, he, he'⟩
  have hdefault : integerOf ("5432" : Text) = .ok 5432 :=
    integerOf_eq_ok_iff.2 (by decide +kernel)
  rw [read, computed_eq hport hdefault]
  simp only [exists_ap_iff, value.injEq, exists_eq_left']
  exact ⟨b, hb, h, hh, p, hp, n, hn, u, hu, w, hw, s, hs, o, ho, e, he,
    hb', hh', hp', hn', hu', hw', hs', ho', he'⟩

/-- Variables replace what was read of the store. -/
theorem exists_override (hd : d₀.Sourced @FileFirst vars ms) (h : vars.Sound) :
    ∃ d, Settings.overrideDatabase vars d₀ = .ok d ∧
      d.Sourced @VariableFirst vars ms := by
  have hport : Settings.portFor vars d₀.port =
      .ok ((vars.denoted? "DB_PORT" integerOf).getD d₀.port) :=
    replaced_eq d₀.port (h.filled _ (by decide)) h.port
  rw [Settings.overrideDatabase_eq, hport]
  refine ⟨_, rfl, ?_⟩
  simp only [h.orElse_eq (by decide : "DB_BACKEND" ∈ replacing),
    h.orElse_eq (by decide : "DB_HOST" ∈ replacing),
    h.orElse_eq (by decide : "DB_NAME" ∈ replacing),
    h.orElse_eq (by decide : "DB_USER" ∈ replacing),
    h.orElse_eq (by decide : "DB_PASSWORD" ∈ replacing)]
  exact ⟨hd.backend.replaced, hd.host.replaced, hd.port.replaced, hd.database.replaced,
    hd.username.replaced, hd.password.replaced, hd.poolSize, hd.maxOverflow, hd.echo⟩

end DatabaseSettings

/-! ## The vendor -/

namespace VendorSettings

/-- The settings of the vendor and their sources; those that have a variable have them in a given
    order. -/
structure Sourced (order : Precedence) (vars : Variables) (ms : List (Text × Json))
    (v : VendorSettings) : Prop where
  successRate : order _ (vars.denoted? "VENDOR_SUCCESS_RATE" doubleOf)
    (inFile ms "success_rate" readRate) (Double.ofRatio false 9 10) v.successRate
  dispatchMin : NoVariable (inFile ms "dispatch_jitter_min" (.ofValue <| Lenient.double ·))
    (Double.ofRatio false 0 1) v.dispatchMin
  dispatchMax : NoVariable (inFile ms "dispatch_jitter_max" (.ofValue <| Lenient.double ·))
    (Double.ofRatio false 5 1) v.dispatchMax
  responseMin : NoVariable (inFile ms "response_jitter_min" (.ofValue <| Lenient.double ·))
    (Double.ofRatio false 1 1) v.responseMin
  responseMax : NoVariable (inFile ms "response_jitter_max" (.ofValue <| Lenient.double ·))
    (Double.ofRatio false 3 1) v.responseMax
  callbackUrl : order _ ((vars "VENDOR_CALLBACK_URL").map some)
    (inFile ms "callback_url" (.ofValue <| optionalText ·)) none v.callbackUrl
  callbackTimeout : NoVariable (inFile ms "callback_timeout" (.ofValue <| Lenient.double ·))
    (Double.ofRatio false 10 1) v.callbackTimeout

variable {vars others : Variables} {ms : List (Text × Json)} {v₀ : VendorSettings}

/-- Settings that can be read with some variables can be read with others, and put the file
    first. No variable stands for a rest, so a look at the rests has the same result. -/
theorem exists_read (h : read others ms = .value v₀)
    (hrate : ∀ t, vars "VENDOR_SUCCESS_RATE" = some t → ∃ x, doubleOf t = .ok x) :
    ∃ v, read vars ms = .value v ∧ v.Sourced @FileFirst vars ms := by
  have hdrawn := drawn_of_read h
  have hdefault : doubleOf ("0.9" : Text) = .ok (Double.ofRatio false 9 10) :=
    Settings.doubleOf_eq_ok_iff.2 (by decide +kernel)
  rcases exists_readMember hdrawn.successRate
    ((vars.denoted? "VENDOR_SUCCESS_RATE" doubleOf).getD (Double.ofRatio false 9 10)) with
    ⟨r, hr, hr'⟩
  rcases exists_readMember hdrawn.callbackUrl (vars "VENDOR_CALLBACK_URL") with ⟨u, hu, hu'⟩
  refine ⟨{ v₀ with successRate := r, callbackUrl := u }, ?_, ?_⟩
  · rw [read, andThen_eq_value_iff, computed_eq hrate hdefault]
    refine ⟨{ v₀ with successRate := r, callbackUrl := u }, ?_, ?_⟩
    · rw [eq_value_iff]
      simp only [exists_ap_iff, value.injEq, exists_eq_left']
      exact ⟨r, hr, _, hdrawn.dispatchMin, _, hdrawn.dispatchMax, _, hdrawn.responseMin, _,
        hdrawn.responseMax, u, hu, _, hdrawn.callbackTimeout, rfl⟩
    · have hlooked :
          ({ v₀ with successRate := r, callbackUrl := u } : VendorSettings).jitterFlaw? = none :=
        hdrawn.looked
      rw [hlooked]
  · have hnone : ((vars "VENDOR_CALLBACK_URL").map some).getD none = vars "VENDOR_CALLBACK_URL" := by
      cases vars "VENDOR_CALLBACK_URL" <;> rfl
    refine ⟨hr', orElse_of_readMember hdrawn.dispatchMin, orElse_of_readMember hdrawn.dispatchMax,
      orElse_of_readMember hdrawn.responseMin, orElse_of_readMember hdrawn.responseMax, ?_,
      orElse_of_readMember hdrawn.callbackTimeout⟩
    rw [FileFirst, hnone]
    exact hu'

/-- Variables replace what was read of the vendor. -/
theorem exists_override (hv : v₀.Sourced @FileFirst vars ms) (h : vars.Sound) :
    ∃ v, Settings.overrideVendor vars v₀ = .ok v ∧ v.Sourced @VariableFirst vars ms := by
  have hrate : Settings.rateFor vars v₀.successRate =
      .ok ((vars.denoted? "VENDOR_SUCCESS_RATE" doubleOf).getD v₀.successRate) :=
    replaced_eq v₀.successRate (h.filled _ (by decide)) h.rate
  refine ⟨{ v₀ with
    successRate := (vars.denoted? "VENDOR_SUCCESS_RATE" doubleOf).getD v₀.successRate
    callbackUrl := ((vars "VENDOR_CALLBACK_URL").map some).getD v₀.callbackUrl }, ?_, ?_⟩
  · rw [Settings.overrideVendor_eq, hrate]
    cases hvar : vars "VENDOR_CALLBACK_URL" with
    | none => rfl
    | some t =>
        have hfilled := h.filled "VENDOR_CALLBACK_URL" (by decide) t hvar
        simp only [Except.map, hfilled, Bool.false_eq_true, if_false, Option.map_some,
          Option.getD_some]
  · exact ⟨hv.successRate.replaced, hv.dispatchMin, hv.dispatchMax, hv.responseMin,
      hv.responseMax, hv.callbackUrl.replaced, hv.callbackTimeout⟩

end VendorSettings

/-! ## The other parts -/

/-- The settings of metrics and log and their sources: the file counts before variables. -/
structure ObservationSettings.Sourced (vars : Variables) (ms : List (Text × Json))
    (o : ObservationSettings) : Prop where
  enableMetrics : NoVariable (inFile ms "enable_metrics" (.ofValue <| Lenient.boolean ·)) true
    o.enableMetrics
  metricsPath : NoVariable (inFile ms "metrics_path" (.ofValue <| Lenient.text ·)) "/metrics"
    o.metricsPath
  logLevel : FileFirst (vars "LOG_LEVEL") (inFile ms "log_level" (.ofValue <| Lenient.text ·))
    "INFO" o.logLevel
  logFormat : FileFirst (vars "LOG_FORMAT") (inFile ms "log_format" (.ofValue <| Lenient.text ·))
    "json" o.logFormat
  logFile : NoVariable (inFile ms "log_file" (.ofValue <| optionalText ·)) none o.logFile

theorem ObservationSettings.exists_read {vars others : Variables} {ms : List (Text × Json)}
    {o₀ : ObservationSettings} (h : read others ms = .value o₀) :
    ∃ o, read vars ms = .value o ∧ o.Sourced vars ms := by
  rw [read, eq_value_iff] at h
  simp only [exists_ap_iff, value.injEq, exists_eq_left'] at h
  rcases h with ⟨_, henable, _, hpath, _, hlevel, _, hformat, _, hfile, -⟩
  rcases exists_readMember hlevel (text vars "LOG_LEVEL" "INFO") with ⟨l, hl, hl'⟩
  rcases exists_readMember hformat (text vars "LOG_FORMAT" "json") with ⟨f, hf, hf'⟩
  rw [read]
  simp only [exists_ap_iff, value.injEq, exists_eq_left']
  exact ⟨_, henable, _, hpath, l, hl, f, hf, _, hfile, orElse_of_readMember henable,
    orElse_of_readMember hpath, hl', hf', orElse_of_readMember hfile⟩

/-- The origins in a file. -/
def SecuritySettings.readOrigins (v : Json) : Checked (List Text) :=
  (Checked.ofValue (Lenient.list v)).andThen fun origins =>
    Checked.items (fun o => Checked.ofValue (Lenient.text o)) 0 origins

/-- The settings for callers from other origins and their source. -/
structure SecuritySettings.Sourced (ms : List (Text × Json)) (c : SecuritySettings) : Prop where
  corsOrigins : NoVariable (inFile ms "cors_origins" readOrigins) [("*" : Text)] c.corsOrigins
  corsAllowCredentials : NoVariable
    (inFile ms "cors_allow_credentials" (.ofValue <| Lenient.boolean ·)) true
    c.corsAllowCredentials

theorem SecuritySettings.sourced_of_read {ms : List (Text × Json)} {c : SecuritySettings}
    (h : read ms = .value c) : c.Sourced ms := by
  rw [read, eq_value_iff] at h
  simp only [exists_ap_iff, value.injEq, exists_eq_left'] at h
  rcases h with ⟨_, horigins, _, hcredentials, rfl⟩
  exact ⟨orElse_of_readMember horigins, orElse_of_readMember hcredentials⟩

/-! ## All settings -/

namespace Settings

/-- All settings and their sources; those of the store and the vendor have theirs in a given
    order. -/
structure Sourced (order : Precedence) (vars : Variables) (file : List (Text × Json))
    (s : Settings) : Prop where
  debug : FileFirst (vars.flag? "DEBUG") (inFile file "debug" (.ofValue <| Lenient.boolean ·))
    false s.debug
  appName : NoVariable (inFile file "app_name" (.ofValue <| Lenient.text ·)) "Campaign Engine"
    s.appName
  appVersion : NoVariable (inFile file "app_version" (.ofValue <| Lenient.text ·)) "1.0.0"
    s.appVersion
  apiPrefix : NoVariable (inFile file "api_prefix" (.ofValue <| Lenient.text ·)) "/api" s.apiPrefix
  host : NoVariable (inFile file "host" (.ofValue <| Lenient.text ·)) "0.0.0.0" s.host
  port : NoVariable (inFile file "port" (.ofValue <| Lenient.integer ·)) 8000 s.port
  database : s.database.Sourced order vars (partOf file "database")
  vendor : s.vendor.Sourced order vars (partOf file "vendor")
  observability : s.observability.Sourced vars (partOf file "observability")
  security : s.security.Sourced (partOf file "security")

variable {vars others : Variables} {ms : List (Text × Json)}

/-- A part that can be read with some variables is an object, if it is given, and is read from
    the values given for it. -/
theorem readMember_of_partOf {α : Type} {name : String}
    {read₀ read : List (Text × Json) → Checked α} {a₀ a : α}
    (h₀ : readMember ms name (readPart read₀) (read₀ []) = .value a₀)
    (h : read (partOf ms name) = .value a) :
    readMember ms name (readPart read) (read []) = .value a := by
  rw [readMember] at h₀ ⊢
  rw [partOf] at h
  cases hfound : Json.find? ms (Text.ofString name) with
  | none =>
      rw [hfound] at h
      exact h
  | some v =>
      rw [hfound] at h h₀
      cases v with
      | object ps => exact under_eq_value_iff.2 h
      | null => cases h₀
      | bool b => cases h₀
      | int n => cases h₀
      | double x => cases h₀
      | text t => cases h₀
      | list vs => cases h₀

/-- Settings that can be read with some variables can be read with others, and put the file
    first. -/
theorem exists_read {s₀ : Settings} (h₀ : read others ms = .value s₀) (h : vars.Sound) :
    ∃ s, read vars ms = .value s ∧
      readMember ms "environment" readEnvironment (.value (text vars "ENVIRONMENT" "dev")) =
        .value s.environment ∧ s.Sourced @FileFirst vars ms := by
  rw [read, eq_value_iff] at h₀
  simp only [exists_ap_iff, value.injEq, exists_eq_left'] at h₀
  rcases h₀ with ⟨_, henvironment, _, hdebug, _, hname, _, hversion, _, hprefix, _, hhost, _, hport,
    _, hdatabase, _, hvendor, _, hobservability, _, hsecurity, -⟩
  rcases exists_readMember henvironment (text vars "ENVIRONMENT" "dev") with ⟨e, he, -⟩
  rcases exists_readMember hdebug ((vars.flag? "DEBUG").getD false) with ⟨g, hg, hg'⟩
  rcases DatabaseSettings.exists_read (read_of_readPart hdatabase) h.port with ⟨d, hd, hd'⟩
  rcases VendorSettings.exists_read (read_of_readPart hvendor) h.rate with ⟨v, hv, hv'⟩
  rcases @ObservationSettings.exists_read vars _ _ _ (read_of_readPart hobservability) with
    ⟨o, ho, ho'⟩
  rw [read, flag_eq]
  simp only [exists_ap_iff, value.injEq, exists_eq_left']
  exact ⟨e, he, g, hg, _, hname, _, hversion, _, hprefix, _, hhost, _, hport,
    d, readMember_of_partOf hdatabase hd, v, readMember_of_partOf hvendor hv,
    o, readMember_of_partOf hobservability ho, _, hsecurity, he,
    hg', orElse_of_readMember hname, orElse_of_readMember hversion, orElse_of_readMember hprefix,
    orElse_of_readMember hhost, orElse_of_readMember hport, hd', hv', ho',
    SecuritySettings.sourced_of_read (read_of_readPart hsecurity)⟩

/-- Variables replace what was read. -/
theorem exists_override {s₀ : Settings} (hs : s₀.Sourced @FileFirst vars ms) (h : vars.Sound) :
    ∃ s, override vars s₀ = .ok s ∧ s.environment = s₀.environment ∧
      s.Sourced @VariableFirst vars ms := by
  rcases DatabaseSettings.exists_override hs.database h with ⟨d, hd, hd'⟩
  rcases VendorSettings.exists_override hs.vendor h with ⟨v, hv, hv'⟩
  refine ⟨{ s₀ with database := d, vendor := v }, ?_, rfl, ?_⟩
  · rw [override, hd, hv]
    rfl
  · exact ⟨hs.debug, hs.appName, hs.appVersion, hs.apiPrefix, hs.host, hs.port, hd', hv',
      hs.observability, hs.security⟩

/-! ## Loading -/

/-- What a file says with the environment put in. -/
def within (environment : Text) (file : List (Text × Json)) : List (Text × Json) :=
  Json.putMember file (Text.ofString "environment") (.text environment)

/-- Settings loaded over any file in place of the profile of the environment. -/
def loadFrom (vars : Variables) (file : List (Text × Json)) : Checked Settings :=
  (read vars (within (text vars "ENVIRONMENT" "dev") file)).andThen fun s =>
    computed (override vars s)

/-- The file of an environment. -/
def fileOf (environment : Text) : List (Text × Json) :=
  (Profile.of environment).map fun m => (Text.ofString m.1, m.2)

theorem load_eq_loadFrom (vars : Variables) :
    load vars = loadFrom vars (fileOf (text vars "ENVIRONMENT" "dev")) := rfl

/-- A file that can be loaded in an environment where no variable is set. -/
def Loadable (environment : Text) (file : List (Text × Json)) : Prop :=
  ∃ s, read (fun _ => none) (within environment file) = .value s

theorem loadable_iff {environment : Text} {file : List (Text × Json)} :
    Loadable environment file ↔
      (read (fun _ => none) (within environment file)).toOption.isSome = true := by
  simp only [Loadable, Option.isSome_iff_exists, toOption_eq_some_iff]

instance (environment : Text) (file : List (Text × Json)) :
    Decidable (Loadable environment file) :=
  decidable_of_iff' _ loadable_iff

/-- The files of all environments can be loaded. -/
theorem loadable_fileOf {environment : Text} (h : isOneOf environments environment = true) :
    Loadable environment (fileOf environment) := by
  rcases environment_cases h with rfl | rfl | rfl | rfl <;> decide +kernel

section

variable {environment : Text} {file : List (Text × Json)}

/-- What is put in for the environment stands under no other name. -/
theorem find?_within (name : String) (h : name ≠ "environment") :
    Json.find? (within environment file) (Text.ofString name) =
      Json.find? file (Text.ofString name) := by
  rw [within, Json.find?_putMember, if_neg (mt Text.ofString_inj.1 h)]

theorem inFile_within {α : Type} {read : Json → Checked α} (name : String)
    (h : name ≠ "environment") :
    inFile (within environment file) name read = inFile file name read := by
  rw [inFile, find?_within name h, inFile]

theorem partOf_within (name : String) (h : name ≠ "environment") :
    partOf (within environment file) name = partOf file name := by
  rw [partOf, find?_within name h, partOf]

theorem Sourced.of_within {order : Precedence} {s : Settings}
    (h : s.Sourced order vars (within environment file)) : s.Sourced order vars file where
  debug := inFile_within "debug" (by decide) ▸ h.debug
  appName := inFile_within "app_name" (by decide) ▸ h.appName
  appVersion := inFile_within "app_version" (by decide) ▸ h.appVersion
  apiPrefix := inFile_within "api_prefix" (by decide) ▸ h.apiPrefix
  host := inFile_within "host" (by decide) ▸ h.host
  port := inFile_within "port" (by decide) ▸ h.port
  database := partOf_within "database" (by decide) ▸ h.database
  vendor := partOf_within "vendor" (by decide) ▸ h.vendor
  observability := partOf_within "observability" (by decide) ▸ h.observability
  security := partOf_within "security" (by decide) ▸ h.security

end

/-- A file that can be loaded where no variable is set can be loaded with any variables that can
    be read. -/
theorem exists_loadFrom {file : List (Text × Json)} (h : vars.Sound)
    (hfile : Loadable (text vars "ENVIRONMENT" "dev") file) :
    ∃ s, loadFrom vars file = .value s ∧ s.environment = text vars "ENVIRONMENT" "dev" ∧
      s.Sourced @VariableFirst vars file := by
  rcases hfile with ⟨s₀, hread⟩
  rcases exists_read hread h with ⟨s₁, hread, henvironment, hs₁⟩
  rcases exists_override hs₁ h with ⟨s, hs, hsame, hsourced⟩
  refine ⟨s, ?_, ?_, hsourced.of_within⟩
  · rw [loadFrom, hread]
    exact computed_eq_value_iff.2 hs
  · rw [hsame]
    exact (environment_of_given henvironment).1

/-- The sources of all loaded settings, whatever variables are set. Each setting of the store and
    the vendor that has a variable has its value, if it is set. The level and the form of the log
    and the flag for debugging have what the file gives, and the value of their variable only if
    the file gives none. All others have what the file gives, and each that has nothing has its
    default. This holds for the file of each environment and for any other that can be loaded. -/
theorem variables_prevail (h : vars.Sound) :
    (isOneOf environments (text vars "ENVIRONMENT" "dev") = true →
      ∃ s, load vars = .value s ∧ s.environment = text vars "ENVIRONMENT" "dev" ∧
        s.Sourced @VariableFirst vars (fileOf (text vars "ENVIRONMENT" "dev"))) ∧
      ∀ file, Loadable (text vars "ENVIRONMENT" "dev") file →
        ∃ s, loadFrom vars file = .value s ∧ s.environment = text vars "ENVIRONMENT" "dev" ∧
          s.Sourced @VariableFirst vars file := by
  refine ⟨fun henvironment => ?_, fun file hfile => exists_loadFrom h hfile⟩
  rw [load_eq_loadFrom]
  exact exists_loadFrom h (loadable_fileOf henvironment)

/-- Variables for a store at some host and for the log, where tests are run. -/
def testVariables : Variables := fun name =>
  if name = "ENVIRONMENT" then some "test"
  else if name = "DB_BACKEND" then some "postgres"
  else if name = "DB_PORT" then some "6543"
  else if name = "VENDOR_SUCCESS_RATE" then some "0.25"
  else if name = "LOG_FORMAT" then some "json"
  else none

theorem variables_prevail_in_test :
    (testVariables.Sound ∧ isOneOf environments (text testVariables "ENVIRONMENT" "dev") = true ∧
      Loadable (text testVariables "ENVIRONMENT" "dev") []) ∧
      (∃ s, load testVariables = .value s ∧ s.database.backend = "postgres" ∧
        s.database.port = 6543 ∧ s.vendor.successRate = Double.ofRatio false 1 4 ∧
        s.observability.logFormat = "text" ∧ s.observability.logLevel = "WARNING") ∧
      ∃ s, loadFrom testVariables [] = .value s ∧ s.observability.logFormat = "json" ∧
        s.observability.logLevel = "INFO" := by
  have hsound : testVariables.Sound := by decide +kernel
  have henvironment : isOneOf environments (text testVariables "ENVIRONMENT" "dev") = true := by
    decide +kernel
  have hempty : Loadable (text testVariables "ENVIRONMENT" "dev") [] := by decide +kernel
  rcases variables_prevail hsound with ⟨hfile, hany⟩
  refine ⟨⟨hsound, henvironment, hempty⟩, ?_, ?_⟩
  · rcases hfile henvironment with ⟨s, hs, -, hsourced⟩
    exact ⟨s, hs, hsourced.database.backend.eq_of_variable (by decide +kernel),
      hsourced.database.port.eq_of_variable (by decide +kernel),
      hsourced.vendor.successRate.eq_of_variable (by decide +kernel),
      hsourced.observability.logFormat.eq_of_file rfl,
      hsourced.observability.logLevel.eq_of_file rfl⟩
  · rcases hany [] hempty with ⟨s, hs, -, hsourced⟩
    have hformat : s.observability.logFormat = (testVariables "LOG_FORMAT").getD "json" :=
      hsourced.observability.logFormat
    exact ⟨s, hs, hformat, hsourced.observability.logLevel⟩

/-- The profile for development hides all variables for the log and for debugging. -/
theorem variables_hidden : ∃ vars s, Variables.Sound vars ∧ load vars = .value s ∧
    vars "LOG_LEVEL" = some "ERROR" ∧ s.observability.logLevel = "DEBUG" ∧
    vars "LOG_FORMAT" = some "json" ∧ s.observability.logFormat = "text" ∧
    vars "DEBUG" = some "false" ∧ s.debug = true := by
  let vars : Variables := fun name =>
    if name = "LOG_LEVEL" then some "ERROR"
    else if name = "LOG_FORMAT" then some "json"
    else if name = "DEBUG" then some "false"
    else none
  have hsound : Variables.Sound vars := by decide +kernel
  have hloaded : (load vars).toOption.map (fun s =>
      (s.observability.logLevel, s.observability.logFormat, s.debug)) =
        some (("DEBUG" : Text), ("text" : Text), true) := by
    decide +kernel
  rcases Option.map_eq_some_iff.1 hloaded with ⟨s, hs, hvalues⟩
  simp only [Prod.mk.injEq] at hvalues
  exact ⟨vars, s, hsound, toOption_eq_some_iff.1 hs, rfl, hvalues.1, rfl, hvalues.2.1, rfl,
    hvalues.2.2⟩

end Settings

end Outreach
