import Outreach.Json.Basic
import Outreach.Settings.Basic

/-!
# Settings as JSON

Settings as objects, with what follows from them: the address of the database
and the ranges of the rests.

## Main definitions

* `DatabaseSettings.toJson`, `VendorSettings.toJson`,
  `ObservationSettings.toJson`, `SecuritySettings.toJson`, `Settings.toJson`:
  The objects.
-/

namespace Outreach

/-- A text that may be absent. -/
def Json.ofText? (t : Option Text) : Json :=
  (t.map Json.text).getD .null

/-- A range. -/
def Json.ofRange (range : Double × Double) : Json :=
  .list [.double range.1, .double range.2]

/-- The settings of the store as an object. -/
def DatabaseSettings.toJson (s : DatabaseSettings) : Json :=
  .record [("backend", .text s.backend), ("host", .text s.host), ("port", .int s.port),
    ("database", .text s.database), ("username", .text s.username),
    ("password", .text s.password), ("pool_size", .int s.poolSize),
    ("max_overflow", .int s.maxOverflow), ("echo", .bool s.echo), ("url", .text s.url)]

/-- The settings of the vendor as an object. -/
def VendorSettings.toJson (s : VendorSettings) : Json :=
  .record [("success_rate", .double s.successRate),
    ("dispatch_jitter_min", .double s.dispatchMin), ("dispatch_jitter_max", .double s.dispatchMax),
    ("response_jitter_min", .double s.responseMin), ("response_jitter_max", .double s.responseMax),
    ("callback_url", .ofText? s.callbackUrl), ("callback_timeout", .double s.callbackTimeout),
    ("dispatch_jitter", .ofRange s.dispatch), ("response_jitter", .ofRange s.response)]

/-- The settings of metrics and log as an object. -/
def ObservationSettings.toJson (s : ObservationSettings) : Json :=
  .record [("enable_metrics", .bool s.enableMetrics), ("metrics_path", .text s.metricsPath),
    ("log_level", .text s.logLevel), ("log_format", .text s.logFormat),
    ("log_file", .ofText? s.logFile)]

/-- The settings for callers from other origins as an object. -/
def SecuritySettings.toJson (s : SecuritySettings) : Json :=
  .record [("cors_origins", .list (s.corsOrigins.map Json.text)),
    ("cors_allow_credentials", .bool s.corsAllowCredentials)]

/-- All settings as an object. -/
def Settings.toJson (s : Settings) : Json :=
  .record [("environment", .text s.environment), ("debug", .bool s.debug),
    ("app_name", .text s.appName), ("app_version", .text s.appVersion),
    ("api_prefix", .text s.apiPrefix), ("host", .text s.host), ("port", .int s.port),
    ("database", s.database.toJson), ("vendor", s.vendor.toJson),
    ("observability", s.observability.toJson), ("security", s.security.toJson)]

end Outreach
