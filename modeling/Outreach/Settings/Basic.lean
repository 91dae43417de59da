import Outreach.Number.Double
import Outreach.Text.Substitute

/-!
# Settings

How the service is set up: the store, the vendor, what can be observed of it
and who may call it.

## Main definitions

* `DatabaseSettings`, `VendorSettings`, `ObservationSettings`,
  `SecuritySettings`: The parts.
* `Settings`: All settings.
* `DatabaseSettings.url`: Where the database is.
* `DatabaseSettings.shownUrl`: The same for the log, without the password.
* `VendorSettings.jitterFlaw?`: What is wrong with the ranges of the rests.
-/

namespace Outreach

/-- The settings of the store. -/
structure DatabaseSettings where
  backend : Text
  host : Text
  port : Int
  database : Text
  username : Text
  password : Text
  poolSize : Int
  maxOverflow : Int
  echo : Bool
  deriving DecidableEq, Inhabited

namespace DatabaseSettings

/-- The kinds of stores. -/
def backends : List String := ["postgres", "memory"]

/-- Where the database is. -/
def url (s : DatabaseSettings) : Text :=
  "postgresql+asyncpg://" ++ s.username ++ ":" ++ s.password ++ "@" ++ s.host ++ ":" ++
    toString s.port ++ "/" ++ s.database

/-- What stands for a password. -/
def mask : String := "****"

/-- Where the database is, with every occurrence of the password masked. -/
def shownUrl (s : DatabaseSettings) : Text :=
  s.url.substitute s.password mask

end DatabaseSettings

/-- The settings of the vendor. -/
structure VendorSettings where
  successRate : Double
  dispatchMin : Double
  dispatchMax : Double
  responseMin : Double
  responseMax : Double
  callbackUrl : Option Text
  callbackTimeout : Double
  deriving DecidableEq, Inhabited

namespace VendorSettings

/-- The rest before dispatch: least and greatest length in seconds. -/
def dispatch (s : VendorSettings) : Double × Double := (s.dispatchMin, s.dispatchMax)

/-- The rest before the response: least and greatest length in seconds. -/
def response (s : VendorSettings) : Double × Double := (s.responseMin, s.responseMax)

/-- What is wrong with a range. -/
def rangeFlaw? (name : String) (range : Double × Double) : Option String :=
  if range.1.lt Double.zero || range.2.lt Double.zero then
    some (name ++ " jitter cannot be negative")
  else if range.2.lt range.1 then some (name ++ " jitter min must not exceed max")
  else none

/-- What is wrong with the ranges of the rests. -/
def jitterFlaw? (s : VendorSettings) : Option String :=
  (rangeFlaw? "dispatch" s.dispatch).orElse fun _ => rangeFlaw? "response" s.response

/-- Whether a number is a probability. -/
def isProbability (x : Double) : Bool :=
  Double.zero.le x && x.le (Double.ofInt 1)

end VendorSettings

/-- The settings of metrics and log. -/
structure ObservationSettings where
  enableMetrics : Bool
  metricsPath : Text
  logLevel : Text
  logFormat : Text
  logFile : Option Text
  deriving DecidableEq, Inhabited

/-- The settings for callers from other origins. -/
structure SecuritySettings where
  corsOrigins : List Text
  corsAllowCredentials : Bool
  deriving DecidableEq, Inhabited

/-- All settings. -/
structure Settings where
  environment : Text
  debug : Bool
  appName : Text
  appVersion : Text
  apiPrefix : Text
  host : Text
  port : Int
  database : DatabaseSettings
  vendor : VendorSettings
  observability : ObservationSettings
  security : SecuritySettings
  deriving DecidableEq, Inhabited

/-- The environments that the service runs in. -/
def Settings.environments : List String := ["dev", "staging", "prod", "test"]

end Outreach
