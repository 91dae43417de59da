import Outreach.Api.Message
import Outreach.Api.Pattern
import Outreach.Settings.Basic

/-!
# Routes

What the service does at which path. Below a configured prefix stands the
version of the interface and below that the paths of campaigns, receipts,
customers, orders and totals. Beside them there are pages for people. A path
may lead to several places, of which the first that has the method of a
request counts.

A path that leads nowhere refers to the path with a slash at its end taken
away or added if that one leads somewhere.

## Main definitions

* `Route`: What can be done.
* `Route.label`: The path of a route, as metrics name it.
* `Place`: What a path can lead to.
* `Directory`: The places with the patterns of their paths.
* `Directory.ofSettings`: The places that settings ask for.
* `Target`: What a request aims at.
* `Directory.target`: The target of a request.
-/

namespace Outreach

namespace Api

/-- What can be done. -/
inductive Route
  | health
  | ready
  | preview
  | createCampaign
  | listCampaigns
  | showCampaign
  | listDeliveries
  | receive
  | createCustomer
  | listCustomers
  | createOrder
  | listOrders
  | totals
  deriving DecidableEq, Inhabited

/-- The method of a route. -/
def Route.method : Route → String
  | .preview | .createCampaign | .receive | .createCustomer | .createOrder => "POST"
  | _ => "GET"

/-- The path of a route. -/
def Route.label : Route → String
  | .health => "/health"
  | .ready => "/ready"
  | .preview => "/campaigns/preview"
  | .createCampaign | .listCampaigns => "/campaigns"
  | .showCampaign => "/campaigns/\x7bcampaign_id\x7d"
  | .listDeliveries => "/campaigns/\x7bcampaign_id\x7d/deliveries"
  | .receive => "/delivery-receipt"
  | .createCustomer | .listCustomers => "/customers"
  | .createOrder | .listOrders => "/orders"
  | .totals => "/dashboard/stats"

/-- The routes outside the versions of the interface. -/
def fixedRoutes : List Route := [.health, .ready]

/-- The routes below the version of the interface, in order. -/
def versionedRoutes : List Route :=
  [.preview, .createCampaign, .listCampaigns, .showCampaign, .listDeliveries, .receive,
    .createCustomer, .listCustomers, .createOrder, .listOrders, .totals]

/-- What a path can lead to. -/
inductive Place
  | route (r : Route)
  /-- A page that documents the interface. -/
  | manual (type : String)
  /-- The page of metrics. -/
  | metrics
  deriving DecidableEq, Inhabited

namespace Place

/-- The methods of a place. -/
def methods? : Place → Option (List String)
  | .route r => some [r.method]
  | .manual _ => some ["GET", "HEAD"]
  | .metrics => none

/-- Whether a place has a method. The page of metrics has every one. -/
def hasMethod (p : Place) (method : String) : Bool :=
  (p.methods?.map fun ms => ms.contains method).getD true

/-- The methods of a place as a response names them. -/
def allowed (p : Place) : String :=
  ", ".intercalate (p.methods?.getD [])

/-- The path of a place as metrics name it, if it has one of its own. -/
def label? : Place → Option String
  | .route r => some r.label
  | _ => none

end Place

/-- The places with the patterns of their paths, in order. -/
abbrev Directory := List (Place × Pattern)

namespace Directory

/-- The version of the interface. -/
def version : String := "/v1"

/-- The type of a page with layout. -/
def markupType : String := "text/html; charset=utf-8"

/-- The pages that document the interface, with their types. The first of them
    is always there. -/
def manuals (debug : Bool) : List (String × String) :=
  ("/openapi.json", "application/json") ::
    (if debug then
      ["/docs", "/docs/oauth2-redirect", "/redoc"].map fun path => (path, markupType)
    else [])

/-- A text without the slashes at its end. -/
def withoutEndSlashes (s : String) : String :=
  String.ofList (s.toList.reverse.dropWhile (· == '/')).reverse

/-- A failure to set the interface up. -/
def misfit (reason : String) : Fault :=
  .foreign "AssertionError" reason

/-- Whether a path is empty or starts at the root. -/
def isRooted (path : String) : Bool :=
  path.isEmpty || path.startsWith "/"

/-- The page of metrics, if settings ask for it. -/
def metricsPlace (s : ObservationSettings) : Except Fault Directory := do
  let path := s.metricsPath.string?.getD ""
  if !s.enableMetrics then return []
  if !isRooted path then throw (misfit "Routed paths must start with '/'")
  return [(.metrics, ← Pattern.ofString (withoutEndSlashes path ++ "/\x7bpath:path\x7d"))]

/-- A route below a prefix. -/
def placeBelow (start : String) (r : Route) : Except Fault (Place × Pattern) :=
  return (.route r, ← Pattern.ofString (start ++ r.label))

/-- The places that settings ask for. -/
def ofSettings (s : Settings) : Except Fault Directory := do
  if s.appName.isEmpty then
    throw (misfit "A title must be provided for OpenAPI, e.g.: 'My API'")
  if s.appVersion.isEmpty then
    throw (misfit "A version must be provided for OpenAPI, e.g.: '2.1.0'")
  let manuals ← (manuals s.debug).mapM fun m => do
    return (Place.manual m.2, ← Pattern.ofString m.1)
  let fixed ← fixedRoutes.mapM (placeBelow "")
  let metrics ← metricsPlace s.observability
  let start := s.apiPrefix.string?.getD ""
  if !isRooted start then throw (misfit "A path prefix must start with '/'")
  let versioned ← versionedRoutes.mapM (placeBelow (start ++ version))
  return manuals ++ fixed ++ metrics ++ versioned

/-- The places that a path leads to, with what the holes of their patterns
    take. -/
def placesAt (d : Directory) (path : String) : List (Place × List String) :=
  d.filterMap fun entry => (entry.2.match? path.toList).map fun parts => (entry.1, parts)

end Directory

/-- A path with the slashes at its end taken away, or with one added. -/
def otherPath (path : String) : String :=
  if path.endsWith "/" then Directory.withoutEndSlashes path else path ++ "/"

/-- What a request aims at. -/
inductive Target
  /-- A place, with the variable parts of the path. -/
  | place (p : Place) (parts : List String)
  /-- There are places, of which this is the first, but none has the method. -/
  | otherMethod (first : Place)
  /-- The path that is meant instead. -/
  | moved (path : String)
  | nothing
  deriving DecidableEq, Inhabited

/-- The target of a method at a path. -/
def Directory.target (d : Directory) (method path : String) : Target :=
  match d.placesAt path with
  | [] =>
    if path != "/" && !(d.placesAt (otherPath path)).isEmpty then .moved (otherPath path)
    else .nothing
  | first :: rest =>
    match (first :: rest).find? fun found => found.1.hasMethod method with
    | some (p, parts) => .place p parts
    | none => .otherMethod first.1

/-- The label of a target, if it has one of its own. -/
def Target.label? : Target → Option String
  | .place p _ | .otherMethod p => p.label?
  | _ => none

end Api

end Outreach
