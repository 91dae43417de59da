import Outreach.Json.Basic
import Outreach.Text.Cut

/-!
# Profiles

The settings that are kept per environment. A profile is found by a path
relative to the directory of the profiles; an environment without a profile
has none of its own settings.

## Main definitions

* `Profile.dev`, `Profile.test`: The profiles.
* `Profile.locate?`: The place that a path leads to.
* `Profile.of`: The profile of an environment.
-/

namespace Outreach

namespace Profile

/-- A decimal number. -/
def decimal (num den : Nat) : Json := .double (Double.ofRatio false num den)

/-- The profile for development. -/
def dev : List (String × Json) :=
  [("debug", .bool true),
    ("database", .record [("backend", "postgres"), ("pool_size", .int 10),
      ("max_overflow", .int 5), ("echo", .bool false)]),
    ("vendor", .record [("success_rate", decimal 9 10), ("dispatch_jitter_min", decimal 0 1),
      ("dispatch_jitter_max", decimal 5 1), ("response_jitter_min", decimal 1 1),
      ("response_jitter_max", decimal 3 1)]),
    ("observability", .record [("enable_metrics", .bool true), ("log_level", "DEBUG"),
      ("log_format", "text")]),
    ("security", .record [("cors_origins", .list ["http://localhost:5173"])])]

/-- The profile for tests. -/
def test : List (String × Json) :=
  [("debug", .bool true),
    ("database", .record [("backend", "memory")]),
    ("vendor", .record [("success_rate", decimal 9 10), ("dispatch_jitter_min", decimal 0 1),
      ("dispatch_jitter_max", decimal 0 1), ("response_jitter_min", decimal 0 1),
      ("response_jitter_max", decimal 0 1)]),
    ("observability", .record [("enable_metrics", .bool false), ("log_level", "WARNING"),
      ("log_format", "text")])]

/-- The directory of the profiles. -/
def directory : List Text := ["infra", "config"]

/-- The directories that a path can lead through. -/
def directories : List (List Text) :=
  [[], ["infra"], directory, ["infra", "migrations"], ["infra", "migrations", "versions"],
    ["tests"], ["tests", "local"], ["campaign_engine"],
    ["campaign_engine", "api"], ["campaign_engine", "api", "middleware"],
    ["campaign_engine", "api", "routes"], ["campaign_engine", "api", "routes", "v1"],
    ["campaign_engine", "core"], ["campaign_engine", "core", "services"],
    ["campaign_engine", "core", "observability"], ["campaign_engine", "core", "ports"],
    ["campaign_engine", "core", "domain"], ["campaign_engine", "adapters"],
    ["campaign_engine", "adapters", "vendors"], ["campaign_engine", "adapters", "db"],
    ["campaign_engine", "adapters", "db", "repositories"],
    ["campaign_engine", "adapters", "memory"]]

/-- The files of the profiles. -/
def files : List (List Text × List (String × Json)) :=
  [(directory ++ [("dev.yaml" : Text)], dev), (directory ++ [("test.yaml" : Text)], test)]

/-- The place that a path leads to from a directory, if every directory on the
    way exists. -/
def locate? (here : List Text) : List Text → Option (List Text)
  | [] => none
  | [name] => some (here ++ [name])
  | step :: rest =>
    if step = ("" : Text) ∨ step = ("." : Text) then locate? here rest
    else
      let up : Text := ".."
      let there := if step = up then here.dropLast else here ++ [step]
      if directories.contains there ∧ ¬(step = up ∧ here = []) then locate? there rest
      else none

/-- The profile of an environment. -/
def of (environment : Text) : List (String × Json) :=
  -- A path from the root leads to no profile.
  if environment.points.head? = some (.char '/') then []
  else
    match locate? directory (Text.splitOn '/' (environment ++ ".yaml")) with
    | some place => ((files.find? fun f => f.1 = place).map Prod.snd).getD []
    | none => []

end Profile

end Outreach
