import Outreach.Proofs.Api.Form
import Outreach.Proofs.Json.Named
import Outreach.Settings.Load

/-!
# What Loaded Settings Satisfy

The settings of the service are drawn from the profile of its environment. A value that the
profile gives is checked. One that it leaves out comes from a variable or is a fixed default,
and neither is checked; nor is a variable that replaces a value afterwards. So what holds of
all loaded settings is what no variable can touch: the environment is a known one, because it
is put among the given values, and the rests are in order, because no variable stands for
them. The kind of store and the rate of success are right just if the variables that stand
for them are, as long as they are set and count.

## Main definitions

* `DatabaseSettings.Drawn`, `VendorSettings.Drawn`, `Settings.Drawn`: Where each of the
  settings comes from.
* `Settings.profileGiven`, `Settings.partOf`: The values that a profile gives, and those for a
  part.
* `VendorSettings.InOrder`: A range from zero on, its least length first.

## Theorems

* `DatabaseSettings.drawn_of_read`, `VendorSettings.drawn_of_read`, `Settings.drawn_of_read`:
  What was read was drawn.
* `VendorSettings.inOrder_of_rangeFlaw?`: What the look at a range rules out.
* `Checked.holds_of_readMember`: A given value is checked, a default is not.
* `Settings.exists_of_load`: Loaded settings are drawn first and then replaced.
* `Settings.load_satisfies`: What holds of loaded settings.
* `Settings.load_unknown_backend`: A kind of store that no store has.
-/

namespace Outreach

open Variables

namespace Checked

variable {α β : Type}

theorem computed_eq_value_iff {e : Except Fault α} {a : α} : computed e = .value a ↔ e = .ok a := by
  cases e with
  | ok b => rw [computed, value.injEq, Except.ok.injEq]
  | error f => exact iff_of_false nofun nofun

theorem andThen_eq_value_iff {x : Checked β} {f : β → Checked α} {a : α} :
    x.andThen f = .value a ↔ ∃ b, x = .value b ∧ f b = .value a := by
  cases x with
  | value b => simp only [andThen, value.injEq, exists_eq_left']
  | flawed flaw =>
      constructor
      · intro h
        cases h
      · rintro ⟨b, hb, -⟩
        cases hb

/-- What was read, if anything was. -/
def toOption : Checked α → Option α
  | .value a => some a
  | .flawed _ => none

theorem toOption_eq_some_iff {x : Checked α} {a : α} : x.toOption = some a ↔ x = .value a := by
  cases x with
  | value b => rw [toOption, Option.some.injEq, value.injEq]
  | flawed flaw => exact iff_of_false nofun nofun

/-- A member that must satisfy a condition does so if it is given. -/
theorem holds_of_readMember {ms : List (Text × Json)} {name : String}
    {read : Json → Except IssueKind α} {condition : α → Bool} {kind : IssueKind}
    {default : Checked α} {a : α}
    (h : readMember ms name (fun v => (ofValue (read v)).require condition kind) default =
      .value a) :
    (Json.find? ms (Text.ofString name)).isSome = true ∧ condition a = true ∨
      (Json.find? ms (Text.ofString name)).isSome = false ∧ default = .value a := by
  rw [readMember] at h
  cases hfound : Json.find? ms (Text.ofString name) with
  | none =>
      rw [hfound] at h
      exact .inr ⟨rfl, h⟩
  | some v =>
      rw [hfound] at h
      rcases andThen_eq_value_iff.1 (under_eq_value_iff.1 h) with ⟨b, -, hb⟩
      by_cases hcondition : condition b = true
      · rw [if_pos hcondition] at hb
        exact .inl ⟨rfl, value.inj hb ▸ hcondition⟩
      · rw [if_neg hcondition] at hb
        cases hb

theorem eq_value_iff {x : Checked α} {a : α} : x = .value a ↔ ∃ b, x = .value b ∧ b = a := by
  simp only [exists_eq_right]

/-- One part more: what holds of all parts together is a condition on the last one. -/
theorem exists_ap_iff {f : Checked (β → α)} {x : Checked β} {P : α → Prop} :
    (∃ a, f.ap x = .value a ∧ P a) ↔ ∃ g, f = .value g ∧ ∃ b, x = .value b ∧ P (g b) := by
  simp only [ap_eq_value_iff]
  constructor
  · rintro ⟨a, ⟨g, b, hg, hb, rfl⟩, ha⟩
    exact ⟨g, hg, b, hb, ha⟩
  · rintro ⟨g, hg, b, hb, ha⟩
    exact ⟨_, ⟨g, b, hg, hb, rfl⟩, ha⟩

end Checked

theorem map_eq_ok_iff {α β : Type} {e : Except Fault α} {f : α → β} {b : β} :
    e.map f = .ok b ↔ ∃ a, e = .ok a ∧ f a = b := by
  cases e with
  | ok a => simp only [Except.map, Except.ok.injEq, exists_eq_left']
  | error fault => exact iff_of_false nofun (by rintro ⟨a, ha, -⟩; cases ha)

open Checked

/-! ## Where settings come from -/

/-- The settings of the store, each from the given values or, failing that, from its variable
    or its default. -/
structure DatabaseSettings.Drawn (vars : Variables) (ms : List (Text × Json))
    (d : DatabaseSettings) : Prop where
  backend : readMember ms "backend" readBackend (.value (text vars "DB_BACKEND" "postgres")) =
    .value d.backend
  host : given ms "host" Lenient.text (.value (text vars "DB_HOST" "localhost")) = .value d.host
  port : given ms "port" Lenient.integer (computed (integerOf (text vars "DB_PORT" "5432"))) =
    .value d.port
  database : given ms "database" Lenient.text (.value (text vars "DB_NAME" "campaign_engine")) =
    .value d.database
  username : given ms "username" Lenient.text (.value (text vars "DB_USER" "postgres")) =
    .value d.username
  password : given ms "password" Lenient.text (.value (text vars "DB_PASSWORD" "postgres")) =
    .value d.password

theorem DatabaseSettings.drawn_of_read {vars : Variables} {ms : List (Text × Json)}
    {d : DatabaseSettings} (h : read vars ms = .value d) : d.Drawn vars ms := by
  rw [read, eq_value_iff] at h
  simp only [exists_ap_iff, value.injEq, exists_eq_left'] at h
  rcases h with ⟨_, hbackend, _, hhost, _, hport, _, hdatabase, _, husername, _, hpassword,
    _, -, _, -, _, -, rfl⟩
  exact ⟨hbackend, hhost, hport, hdatabase, husername, hpassword⟩

/-- The settings of the vendor, each from the given values or, failing that, from its variable
    or its default. Whatever they are, the rests have been looked at. -/
structure VendorSettings.Drawn (vars : Variables) (ms : List (Text × Json))
    (v : VendorSettings) : Prop where
  successRate : readMember ms "success_rate" readRate
    (computed (doubleOf (text vars "VENDOR_SUCCESS_RATE" "0.9"))) = .value v.successRate
  dispatchMin : given ms "dispatch_jitter_min" Lenient.double (defaultDouble 0 1) =
    .value v.dispatchMin
  dispatchMax : given ms "dispatch_jitter_max" Lenient.double (defaultDouble 5 1) =
    .value v.dispatchMax
  responseMin : given ms "response_jitter_min" Lenient.double (defaultDouble 1 1) =
    .value v.responseMin
  responseMax : given ms "response_jitter_max" Lenient.double (defaultDouble 3 1) =
    .value v.responseMax
  callbackUrl : given ms "callback_url" optionalText (.value (vars "VENDOR_CALLBACK_URL")) =
    .value v.callbackUrl
  callbackTimeout : given ms "callback_timeout" Lenient.double (defaultDouble 10 1) =
    .value v.callbackTimeout
  looked : v.jitterFlaw? = none

theorem VendorSettings.drawn_of_read {vars : Variables} {ms : List (Text × Json)}
    {v : VendorSettings} (h : read vars ms = .value v) : v.Drawn vars ms := by
  rw [read, andThen_eq_value_iff] at h
  rcases h with ⟨v', hread, hchecked⟩
  -- What is read is only looked at; it is not changed.
  have hsame : v' = v ∧ v'.jitterFlaw? = none := by
    cases hflaw : v'.jitterFlaw? with
    | none =>
        rw [hflaw] at hchecked
        exact ⟨value.inj hchecked, rfl⟩
    | some reason =>
        rw [hflaw] at hchecked
        cases hchecked
  rcases hsame with ⟨rfl, hlooked⟩
  rw [eq_value_iff] at hread
  simp only [exists_ap_iff, value.injEq, exists_eq_left'] at hread
  rcases hread with ⟨_, hrate, _, hmin, _, hmax, _, hmin', _, hmax', _, hurl, _, htimeout,
    rfl⟩
  exact ⟨hrate, hmin, hmax, hmin', hmax', hurl, htimeout, hlooked⟩

namespace Settings

/-- The values given for a part, of which there may be none. -/
def partOf (ms : List (Text × Json)) (name : String) : List (Text × Json) :=
  match Json.find? ms (Text.ofString name) with
  | some (.object ps) => ps
  | _ => []

/-- A part is read from the values given for it; a part that is not given has none. -/
theorem read_of_readPart {α : Type} {ms : List (Text × Json)} {name : String}
    {read : List (Text × Json) → Checked α} {a : α}
    (h : readMember ms name (readPart read) (read []) = .value a) :
    read (partOf ms name) = .value a := by
  rw [readMember] at h
  rw [partOf]
  cases hfound : Json.find? ms (Text.ofString name) with
  | none =>
      rw [hfound] at h
      exact h
  | some v =>
      rw [hfound] at h
      have hread := under_eq_value_iff.1 h
      cases v with
      | object ps => exact hread
      | null => cases hread
      | bool b => cases hread
      | int n => cases hread
      | double x => cases hread
      | text t => cases hread
      | list vs => cases hread

/-- All settings, each from the given values or, failing that, from its variable or its
    default. -/
structure Drawn (vars : Variables) (ms : List (Text × Json)) (s : Settings) : Prop where
  environment : readMember ms "environment" readEnvironment
    (.value (text vars "ENVIRONMENT" "dev")) = .value s.environment
  debug : given ms "debug" Lenient.boolean
    (.value ((text vars "DEBUG" "false").lowercase = ("true" : Text))) = .value s.debug
  database : s.database.Drawn vars (partOf ms "database")
  vendor : s.vendor.Drawn vars (partOf ms "vendor")
  observability : ObservationSettings.read vars (partOf ms "observability") =
    .value s.observability

theorem drawn_of_read {vars : Variables} {ms : List (Text × Json)} {s : Settings}
    (h : read vars ms = .value s) : s.Drawn vars ms := by
  rw [read, eq_value_iff] at h
  simp only [exists_ap_iff, value.injEq, exists_eq_left'] at h
  rcases h with ⟨_, henvironment, _, hdebug, _, -, _, -, _, -, _, -, _, -, _, hdatabase, _,
    hvendor, _, hobservability, _, -, rfl⟩
  exact ⟨henvironment, hdebug, DatabaseSettings.drawn_of_read (read_of_readPart hdatabase),
    VendorSettings.drawn_of_read (read_of_readPart hvendor), read_of_readPart hobservability⟩

end Settings

/-! ## Ranges -/

/-- Of two numbers, one is less than the other or the other is at least as great. -/
theorem Double.le_of_not_lt {x y : Double} (hx : x.isNaN = false) (hy : y.isNaN = false)
    (h : y.lt x = false) : x.le y = true := by
  cases x with
  | nan => cases hx
  | number sx rx hrx =>
      cases y with
      | nan => cases hy
      | number sy ry hry => exact decide_eq_true (not_lt.1 (of_decide_eq_false h))

namespace VendorSettings

/-- A range from zero on, its least length first. -/
def InOrder (range : Double × Double) : Prop :=
  Double.zero.le range.1 = true ∧ range.1.le range.2 = true

/-- A look at a range finds whatever is not in order, as long as both ends are numbers. -/
theorem inOrder_of_rangeFlaw? {name : String} {range : Double × Double}
    (hmin : range.1.isNaN = false) (hmax : range.2.isNaN = false)
    (h : rangeFlaw? name range = none) : InOrder range := by
  rw [rangeFlaw?] at h
  cases hnegative : range.1.lt Double.zero || range.2.lt Double.zero with
  | true =>
      rw [hnegative] at h
      cases h
  | false =>
      rw [hnegative] at h
      cases hcrossed : range.2.lt range.1 with
      | true =>
          rw [hcrossed] at h
          cases h
      | false =>
          rw [Bool.or_eq_false_iff] at hnegative
          exact ⟨Double.le_of_not_lt rfl hmin hnegative.1,
            Double.le_of_not_lt hmin hmax hcrossed⟩

theorem rangeFlaw?_of_jitterFlaw? {v : VendorSettings} (h : v.jitterFlaw? = none) :
    rangeFlaw? "dispatch" v.dispatch = none ∧ rangeFlaw? "response" v.response = none := by
  rw [jitterFlaw?] at h
  cases hdispatch : rangeFlaw? "dispatch" v.dispatch with
  | none =>
      rw [hdispatch] at h
      exact ⟨rfl, h⟩
  | some reason =>
      rw [hdispatch] at h
      cases h

end VendorSettings

open VendorSettings (InOrder isProbability)

namespace Settings

/-! ## Profiles -/

/-- The values that the profile of an environment gives. -/
def profileGiven (environment : Text) : List (Text × Json) :=
  Json.putMember ((Profile.of environment).map fun m => (Text.ofString m.1, m.2))
    (Text.ofString "environment") (.text environment)

theorem profileMembers_eq (vars : Variables) :
    profileMembers vars = profileGiven (text vars "ENVIRONMENT" "dev") := rfl

/-- The environments that have a profile. -/
def profiled : List String := ["dev", "test"]

theorem environment_cases {environment : Text} (h : isOneOf environments environment = true) :
    environment = Text.ofString "dev" ∨ environment = Text.ofString "staging" ∨
      environment = Text.ofString "prod" ∨ environment = Text.ofString "test" := by
  simpa [isOneOf, environments] using h

theorem isSome_find?_backend {environment : Text} (h : isOneOf environments environment = true) :
    (Json.find? (partOf (profileGiven environment) "database") (Text.ofString "backend")).isSome =
      isOneOf profiled environment := by
  rcases environment_cases h with rfl | rfl | rfl | rfl <;> rfl

theorem isSome_find?_rate {environment : Text} (h : isOneOf environments environment = true) :
    (Json.find? (partOf (profileGiven environment) "vendor")
      (Text.ofString "success_rate")).isSome = isOneOf profiled environment := by
  rcases environment_cases h with rfl | rfl | rfl | rfl <;> rfl

/-- A rest is a number, whether the profile gives it or not. -/
theorem isNaN_of_given {environment : Text} {name : String} {num den : Nat} {x : Double}
    (henvironment : isOneOf environments environment = true)
    (hname : name ∈ ["dispatch_jitter_min", "dispatch_jitter_max", "response_jitter_min",
      "response_jitter_max"])
    (h : given (partOf (profileGiven environment) "vendor") name Lenient.double
      (VendorSettings.defaultDouble num den) = .value x) : x.isNaN = false := by
  -- There are four profiles and four lengths; each is given as a number or has one as default.
  simp only [List.mem_cons, List.not_mem_nil, or_false] at hname
  rcases environment_cases henvironment with rfl | rfl | rfl | rfl <;>
    rcases hname with rfl | rfl | rfl | rfl <;> rw [← Checked.value.inj h] <;> rfl

/-- The environment is put among the given values, so it is checked. -/
theorem environment_of_given {ms : List (Text × Json)} {environment e : Text}
    {default : Checked Text}
    (h : readMember (Json.putMember ms (Text.ofString "environment") (.text environment))
      "environment" readEnvironment default = .value e) :
    e = environment ∧ isOneOf environments environment = true := by
  rw [readMember, Json.find?_putMember, if_pos rfl] at h
  have hread : readEnvironment (.text environment) = .value e := under_eq_value_iff.1 h
  rw [readEnvironment, Checked.require, andThen_eq_value_iff] at hread
  rcases hread with ⟨t, ht, hcondition⟩
  cases ht
  by_cases hone : isOneOf environments environment = true
  · rw [if_pos hone] at hcondition
    exact ⟨(value.inj hcondition).symm, hone⟩
  · rw [if_neg hone] at hcondition
    cases hcondition

/-! ## What variables replace -/

/-- A port that is set and not empty replaces the port. -/
def portFor (vars : Variables) (port : Int) : Except Fault Int :=
  match vars "DB_PORT" with
  | some t => if t.isEmpty then .ok port else integerOf t
  | none => .ok port

/-- Only the port can spoil the settings of the store. -/
theorem overrideDatabase_eq (vars : Variables) (d : DatabaseSettings) :
    overrideDatabase vars d = (portFor vars d.port).map fun port =>
      { d with
        backend := orElse vars "DB_BACKEND" d.backend
        host := orElse vars "DB_HOST" d.host
        port := port
        database := orElse vars "DB_NAME" d.database
        username := orElse vars "DB_USER" d.username
        password := orElse vars "DB_PASSWORD" d.password } := by
  rw [overrideDatabase, portFor]
  cases vars "DB_PORT" with
  | none => rfl
  | some t =>
      by_cases hempty : t.isEmpty = true
      · simp only [if_pos hempty]
        rfl
      · simp only [if_neg hempty]
        cases integerOf t <;> rfl

/-- A rate that is set and not empty replaces the rate. -/
def rateFor (vars : Variables) (rate : Double) : Except Fault Double :=
  match vars "VENDOR_SUCCESS_RATE" with
  | some t => if t.isEmpty then .ok rate else doubleOf t
  | none => .ok rate

/-- Only the rate can spoil the settings of the vendor. -/
theorem overrideVendor_eq (vars : Variables) (v : VendorSettings) :
    overrideVendor vars v = (rateFor vars v.successRate).map fun rate =>
      { v with
        successRate := rate
        callbackUrl := match vars "VENDOR_CALLBACK_URL" with
          | some t => if t.isEmpty then v.callbackUrl else some t
          | none => v.callbackUrl } := by
  rw [overrideVendor, rateFor]
  cases vars "VENDOR_SUCCESS_RATE" with
  | none => rfl
  | some t =>
      by_cases hempty : t.isEmpty = true
      · simp only [if_pos hempty]
        rfl
      · simp only [if_neg hempty]
        cases doubleOf t <;> rfl

theorem doubleOf_eq_ok_iff {t : Text} {x : Double} :
    doubleOf t = .ok x ↔ t.readDouble? = some x := by
  rw [doubleOf]
  cases t.readDouble? with
  | some y => rw [Except.ok.injEq, Option.some.injEq]
  | none => exact iff_of_false nofun nofun

theorem readDouble?_of_isEmpty {t : Text} (h : t.isEmpty = true) : t.readDouble? = none := by
  cases t with
  | mk points =>
      cases points with
      | nil => rfl
      | cons p ps => cases h

/-- The kind of store is known just if the variable for it names one, or is empty where a
    profile gives the kind. -/
theorem isOneOf_backends_iff {vars : Variables} {environment b : Text}
    (henvironment : isOneOf environments environment = true)
    (hdrawn : readMember (partOf (profileGiven environment) "database") "backend"
      DatabaseSettings.readBackend (.value (text vars "DB_BACKEND" "postgres")) = .value b) :
    isOneOf DatabaseSettings.backends (orElse vars "DB_BACKEND" b) = true ↔
      ∀ t, vars "DB_BACKEND" = some t → isOneOf DatabaseSettings.backends t = true ∨
        t.isEmpty = true ∧ isOneOf profiled environment = true := by
  have hsource := holds_of_readMember hdrawn
  rw [isSome_find?_backend henvironment] at hsource
  rw [orElse]
  cases hvar : vars "DB_BACKEND" with
  | none =>
      refine iff_of_true ?_ nofun
      rcases hsource with ⟨-, hb⟩ | ⟨-, hb⟩
      · exact hb
      · rw [text, hvar] at hb
        rw [← value.inj hb]
        rfl
  | some t =>
      simp only [Option.some.injEq, forall_eq']
      by_cases hempty : t.isEmpty = true
      · rw [if_pos hempty]
        rcases hsource with ⟨hprofiled, hb⟩ | ⟨hprofiled, hb⟩
        · exact iff_of_true hb (.inr ⟨hempty, hprofiled⟩)
        · rw [text, hvar] at hb
          rw [← value.inj hb, hprofiled]
          exact (or_iff_left fun h => Bool.false_ne_true h.2).symm
      · rw [if_neg hempty]
        exact (or_iff_left fun h => hempty h.1).symm

/-- The rate of success is a probability just if the number that its variable denotes is one. -/
theorem isProbability_iff {vars : Variables} {environment : Text} {rate x : Double}
    (henvironment : isOneOf environments environment = true)
    (hdrawn : readMember (partOf (profileGiven environment) "vendor") "success_rate"
      VendorSettings.readRate (computed (doubleOf (text vars "VENDOR_SUCCESS_RATE" "0.9"))) =
        .value rate) (hrate : rateFor vars rate = .ok x) :
    isProbability x = true ↔ ∀ t, vars "VENDOR_SUCCESS_RATE" = some t →
      ∀ y, t.readDouble? = some y → isProbability y = true := by
  have hsource := holds_of_readMember hdrawn
  rw [isSome_find?_rate henvironment, computed_eq_value_iff] at hsource
  rw [rateFor] at hrate
  cases hvar : vars "VENDOR_SUCCESS_RATE" with
  | none =>
      rw [hvar] at hrate
      refine iff_of_true ?_ nofun
      rw [← Except.ok.inj hrate]
      rcases hsource with ⟨-, hr⟩ | ⟨-, hr⟩
      · exact hr
      · rw [text, hvar] at hr
        rw [← Except.ok.inj hr]
        decide +kernel
  | some t =>
      rw [hvar] at hrate
      dsimp only at hrate
      simp only [Option.some.injEq, forall_eq']
      by_cases hempty : t.isEmpty = true
      · -- An empty text denotes no number, so the rate must have come from a profile.
        rw [if_pos hempty] at hrate
        rw [← Except.ok.inj hrate, readDouble?_of_isEmpty hempty]
        refine iff_of_true ?_ nofun
        rcases hsource with ⟨-, hr⟩ | ⟨-, hr⟩
        · exact hr
        · rw [text, hvar, doubleOf_eq_ok_iff] at hr
          exact absurd ((readDouble?_of_isEmpty hempty).symm.trans hr) nofun
      · rw [if_neg hempty, doubleOf_eq_ok_iff] at hrate
        simp only [hrate, Option.some.injEq, forall_eq']

/-! ## Loading -/

/-- Loaded settings are drawn first, and then variables replace some of them. -/
theorem exists_of_load {vars : Variables} {s : Settings} (h : load vars = .value s) :
    ∃ d v, ({ s with database := d, vendor := v }).Drawn vars (profileMembers vars) ∧
      overrideDatabase vars d = .ok s.database ∧ overrideVendor vars v = .ok s.vendor := by
  rw [load, andThen_eq_value_iff] at h
  rcases h with ⟨r, hread, hreplaced⟩
  rw [computed_eq_value_iff, override] at hreplaced
  rcases bind_eq_ok_iff.1 hreplaced with ⟨d, hd, hreplaced⟩
  rcases bind_eq_ok_iff.1 hreplaced with ⟨v, hv, hreplaced⟩
  cases hreplaced
  exact ⟨r.database, r.vendor, drawn_of_read hread, hd, hv⟩

/-- What holds of loaded settings. The environment is a known one, and the rests are in order.
    The kind of store is known and the rate of success is a probability unless a variable says
    otherwise: neither a variable that stands for a value that was not given nor one that
    replaces a value is checked. -/
theorem load_satisfies {vars : Variables} {s : Settings} (h : load vars = .value s) :
    isOneOf environments s.environment = true ∧
      InOrder s.vendor.dispatch ∧ InOrder s.vendor.response ∧
      (isOneOf DatabaseSettings.backends s.database.backend = true ↔
        ∀ t, vars "DB_BACKEND" = some t → isOneOf DatabaseSettings.backends t = true ∨
          t.isEmpty = true ∧ isOneOf profiled s.environment = true) ∧
      (isProbability s.vendor.successRate = true ↔ ∀ t, vars "VENDOR_SUCCESS_RATE" = some t →
        ∀ x, t.readDouble? = some x → isProbability x = true) := by
  rcases exists_of_load h with ⟨d, v, hdrawn, hdatabase, hvendor⟩
  rw [overrideDatabase_eq, map_eq_ok_iff] at hdatabase
  rw [overrideVendor_eq, map_eq_ok_iff] at hvendor
  rcases hdatabase with ⟨port, -, hdatabase⟩
  rcases hvendor with ⟨rate, hrate, hvendor⟩
  rw [profileMembers_eq] at hdrawn
  rcases environment_of_given hdrawn.environment with ⟨henvironment, hknown⟩
  have hrests := VendorSettings.rangeFlaw?_of_jitterFlaw? hdrawn.vendor.looked
  have hends : v.dispatchMin.isNaN = false ∧ v.dispatchMax.isNaN = false ∧
      v.responseMin.isNaN = false ∧ v.responseMax.isNaN = false :=
    ⟨isNaN_of_given hknown (by decide) hdrawn.vendor.dispatchMin,
      isNaN_of_given hknown (by decide) hdrawn.vendor.dispatchMax,
      isNaN_of_given hknown (by decide) hdrawn.vendor.responseMin,
      isNaN_of_given hknown (by decide) hdrawn.vendor.responseMax⟩
  have henvironment : s.environment = text vars "ENVIRONMENT" "dev" := henvironment
  rw [henvironment, ← hdatabase, ← hvendor]
  exact ⟨hknown, VendorSettings.inOrder_of_rangeFlaw? hends.1 hends.2.1 hrests.1,
    VendorSettings.inOrder_of_rangeFlaw? hends.2.2.1 hends.2.2.2 hrests.2,
    isOneOf_backends_iff hknown hdrawn.database.backend,
    isProbability_iff hknown hdrawn.vendor.successRate hrate⟩

/-- The variables of a production whose store is in memory and whose vendor delivers a quarter of
    all messages. -/
def productionVariables (name : String) : Option Text :=
  if name = "ENVIRONMENT" then some "prod"
  else if name = "DB_BACKEND" then some "memory"
  else if name = "VENDOR_SUCCESS_RATE" then some "0.25"
  else none

theorem load_satisfies_in_production : ∃ s, load productionVariables = .value s ∧
    isOneOf environments s.environment = true ∧ InOrder s.vendor.dispatch ∧
    InOrder s.vendor.response ∧ isOneOf DatabaseSettings.backends s.database.backend = true ∧
    isProbability s.vendor.successRate = true := by
  have hloaded : (load productionVariables).toOption.isSome = true := by decide +kernel
  rcases Option.isSome_iff_exists.1 hloaded with ⟨s, hs⟩
  have hload := toOption_eq_some_iff.1 hs
  rcases load_satisfies hload with ⟨henvironment, hdispatch, hresponse, hbackend, hrate⟩
  refine ⟨s, hload, henvironment, hdispatch, hresponse, hbackend.2 fun t ht => ?_,
    hrate.2 fun t ht x hx => ?_⟩
  · rw [← (Option.some.inj ht : Text.ofString "memory" = t)]
    exact .inl (by decide +kernel)
  · rw [← (Option.some.inj ht : Text.ofString "0.25" = t)] at hx
    have hall : (Text.ofString "0.25").readDouble?.all isProbability = true := by decide +kernel
    rwa [hx] at hall

/-- A kind of store that no store has is loaded all the same, for it replaces the kind that the
    profile of the tests gives. -/
theorem load_unknown_backend : ∃ vars s, load vars = .value s ∧
    isOneOf DatabaseSettings.backends s.database.backend = false := by
  have hloaded : (load fun name => if name = "ENVIRONMENT" then some "test"
      else if name = "DB_BACKEND" then some "mysql" else none).toOption.map
        (isOneOf DatabaseSettings.backends ·.database.backend) = some false := by
    decide +kernel
  rcases Option.map_eq_some_iff.1 hloaded with ⟨s, hs, hbackend⟩
  exact ⟨_, s, toOption_eq_some_iff.1 hs, hbackend⟩

end Settings

end Outreach
