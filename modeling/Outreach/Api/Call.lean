import Outreach.Api.Answer
import Outreach.Api.Form
import Outreach.Api.Route
import Outreach.Api.View
import Outreach.Assembly
import Outreach.Json.Encoding
import Outreach.Log.Setup
import Outreach.Store.Memory
import Outreach.Text.Cut

/-!
# Calls

What a request asks for, once its path, its parameters and its body are read,
and what is done then. Reading touches nothing, and everything that a call
does is done by a service.

A body is a JSON document if its type says so; any other body is a text, and
no form is one.

## Main definitions

* `Call`: What a request asks for.
* `Refusal`: Why a request asks for nothing.
* `Call.read`: The call of a request.
* `App`, `App.create`: The service behind the interface.
* `Call.perform`: What is done for a call.
-/

namespace Outreach

namespace Api

/-- What a request asks for. -/
inductive Call
  | health
  | ready
  | preview (rules : List Rule)
  | createCampaign (args : NewCampaign)
  | listCampaigns (page : Page)
  | showCampaign (id : Uuid)
  | listDeliveries (id : Uuid) (status : Option DeliveryStatus) (page : Page)
  | receive (receipt : ReceiptForm)
  | createCustomer (args : NewCustomer)
  | listCustomers (page : Page)
  | createOrder (args : NewOrder)
  | listOrders (page : Page)
  | totals
  deriving Inhabited

/-- Why a request asks for nothing. -/
inductive Refusal
  /-- The input has the wrong form. -/
  | input (whole : Json) (issues : List Issue)
  /-- The body cannot be read. -/
  | unreadable
  /-- The request cannot be dealt with. -/
  | fault (f : Fault)

/-- What was read of an input. -/
def accept {α : Type} (whole : Json) : Checked α → Except Refusal α
  | .value a => .ok a
  | .flawed (.issues is) => .error (.input whole is)
  | .flawed (.fault f) => .error (.fault f)

/-- Whether a content type is that of JSON documents. -/
def isJsonType (type : String) : Bool :=
  let name : Text := (splitAt ';' type).1
  match (Text.splitOn '/' name.strip.lowercase).map Text.string? with
  | [some "application", some kind] => kind == "json" || kind.endsWith "+json"
  | _ => false

/-- The bytes of a body. -/
def bytesOf (body : String) : List Nat :=
  body.toList.flatMap Text.bytesOf

/-- The body of a request, as far as it can be read: its value, or what is
    wrong with it. -/
def bodyOf (r : Request) : Except Refusal (Checked Json) :=
  if r.body.isEmpty then .ok (.issue .missing)
  -- Without a content type a body is a text.
  else if ((r.header? "content-type").map isJsonType).getD false then
    match Json.readBytes? (bytesOf r.body) with
    | some (.ok v) => .ok (.value v)
    | some (.error (.malformed position)) =>
      .ok ((Checked.issue .malformed).under (.item position))
    | _ => .error .unreadable
  else .ok (.value (.string r.body))

/-- The input that a body is. -/
def bodyInput (body : Checked Json) : Json :=
  match body with
  | .value v => .record [("body", v)]
  | .flawed _ => .null

/-- What a form reads from the body of a request. -/
def readBody {α : Type} (form : Json → Checked α) (r : Request) : Except Refusal α := do
  let body ← bodyOf r
  accept (bodyInput body) ((body.andThen form).under (.member "body"))

/-- The parameters of a request that have some names, as members. -/
def parametersAs (names : List String) (r : Request) : List (Text × Json) :=
  names.filterMap fun name =>
    (r.parameter? name).map fun value => (Text.ofString name, .string value)

/-- The part of a listing that a request asks for. -/
def readPage (r : Request) : Except Refusal Page :=
  let ms := parametersAs ["limit", "offset"] r
  accept (.record [("query", .object ms)]) ((pageForm ms).under (.member "query"))

/-- The campaign that a path is about. -/
def campaignIn (id : String) : Checked Uuid :=
  (identifierForm [(Text.ofString "campaign_id", .string id)]).under (.member "path")

/-- The campaign that a path is about. -/
def readCampaign (id : String) : Except Refusal Uuid :=
  accept .null (campaignIn id)

/-- The listing of records that a request asks for. -/
def readDeliveries (id : String) (r : Request) : Except Refusal Call :=
  let ms := parametersAs ["status", "limit", "offset"] r
  let listing := ((statusForm ms).map Prod.mk).ap (pageForm ms)
  let call := ((campaignIn id).map fun u part => Call.listDeliveries u part.1 part.2).ap
    (listing.under (.member "query"))
  accept (.record [("query", .object ms)]) call

/-- The call of a request on a route, given the variable parts of its path. -/
def Call.read (r : Request) (route : Route) (parts : List String) : Except Refusal Call :=
  let id := parts.getLast?.getD ""
  match route with
  | .health => .ok .health
  | .ready => .ok .ready
  | .preview => return .preview (← readBody previewForm r)
  | .createCampaign => return .createCampaign (← readBody campaignForm r)
  | .listCampaigns => return .listCampaigns (← readPage r)
  | .showCampaign => return .showCampaign (← readCampaign id)
  | .listDeliveries => readDeliveries id r
  | .receive => return .receive (← readBody receiptForm r)
  | .createCustomer => return .createCustomer (← readBody customerForm r)
  | .listCustomers => return .listCustomers (← readPage r)
  | .createOrder => return .createOrder (← readBody orderForm r)
  | .listOrders => return .listOrders (← readPage r)
  | .totals => .ok .totals

/-- The service behind the interface. -/
structure App where
  settings : Settings
  directory : Directory
  /-- A failure that asking for the totals ends with. -/
  totalsFault : Option Fault
  deriving Inhabited

/-- The service behind the interface that settings mean. -/
def App.create (settings : Settings) : Except Fault App := do
  let _ ← Log.threshold settings.observability.logLevel
  return ⟨settings, ← Directory.ofSettings settings, none⟩

/-- The response to a call, and the campaign that is to be launched. -/
structure Outcome where
  response : Response
  launch : Option Uuid
  deriving Inhabited

/-- A response after which nothing is to be launched. -/
def Outcome.done (response : Response) : Outcome :=
  ⟨response, none⟩

/-- Who the service is. -/
def healthAnswer (s : Settings) : Json :=
  .record [("status", .string "healthy"), ("service", .text s.appName),
    ("version", .text s.appVersion), ("environment", .text s.environment)]

/-- Whether the service is ready. -/
def readyAnswer (ready : Bool) : Json :=
  .record [("status", .string (if ready then "ready" else "not ready")),
    ("checks", Assembly.checks ready)]

/-- The totals, unless asking for them fails. -/
def App.totals (app : App) : Action Memory Totals :=
  match app.totalsFault with
  | some f => throw f
  | none => dashboard none

/-- The answer with a list. -/
def listAnswer {α : Type} (view : α → Json) (xs : List α) : Outcome :=
  .done (succeed 200 (.list (xs.map view)))

/-- What is done for a call. -/
def Call.perform (app : App) : Call → Action Memory Outcome
  | .health => return .done (whole 200 (healthAnswer app.settings))
  | .ready => do
    let ready := (← get).store.available
    return .done (succeed (if ready then 200 else 503) (readyAnswer ready))
  | .preview rules => do
    let n ← Audience.preview rules none
    return .done (succeed 200 (countAnswer n))
  | .createCampaign args => do
    let c ← Campaigns.create args.name args.message args.rules
    let answer ← Action.ofExcept (campaignAnswer c)
    return ⟨succeed 201 answer, some c.id⟩
  | .listCampaigns page => do
    let cs ← Campaigns.list page
    let answers ← Action.ofExcept (cs.mapM campaignAnswer)
    return .done (succeed 200 (.list answers))
  | .showCampaign id => do
    let c ← Campaigns.find id
    let answer ← Action.ofExcept (campaignAnswer c)
    return .done (succeed 200 answer)
  | .listDeliveries id status page => do
    let rs ← Campaigns.deliveries id page status
    return listAnswer recordAnswer rs
  | .receive receipt => do
    let result ← Receipts.record receipt.recordId receipt.status
    return .done (succeed 200 (receiptAnswer result))
  | .createCustomer args => do
    let c ← Customers.create args
    return .done (succeed 201 (customerAnswer c))
  | .listCustomers page => do
    let cs ← Customers.list page
    return listAnswer customerAnswer cs
  | .createOrder args => do
    let o ← Orders.ingest args
    return .done (succeed 201 (orderAnswer o))
  | .listOrders page => do
    let os ← Orders.list page
    return listAnswer orderAnswer os
  | .totals => do
    let t ← app.totals
    return .done (succeed 200 (totalsAnswer t))

end Api

end Outreach
