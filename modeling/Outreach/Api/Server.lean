import Outreach.Api.Call
import Outreach.Api.Origin
import Outreach.Vendor.Agenda
import Outreach.Vendor.Callback

/-!
# Answering Requests

Every request is answered. It carries an identifier, which the response
repeats: the one that the caller gave, if it is one, or else a fresh one.
Answered requests are counted by method, path and status. An internal error
is neither counted nor identified.

A campaign that a request created is launched once the request is answered.

## Main definitions

* `identify`: The identifier of a request.
* `App.outcome`: What is done for a request.
* `App.respond`: A request answered, with identifier and count.
* `App.handle`: The same, with the launch that follows.
* `App.sink`: Receipts that are posted to the service itself.
-/

namespace Outreach

namespace Api

/-- The header of the identifier of a request. -/
def identifierHeader : String := "x-request-id"

/-- The identifier that the caller gave to a request, if it is one. -/
def givenIdentifier? (r : Request) : Option String :=
  match r.header? identifierHeader with
  | some text => if (Uuid.readLoose text).isOk then some text else none
  | none => none

/-- The identifier of a request. -/
def identify (r : Request) : Action Memory String := do
  match givenIdentifier? r with
  | some text => return text
  | none => return (← Action.freshId).text

namespace App

/-- The response to a failure, if the caller can do something about it. -/
def answerOf (f : Fault) : Action Memory Outcome :=
  match f.answer? with
  | some (status, label) => return .done (failure status label f.message)
  | none => throw f

/-- What is done for a request on a route. -/
def follow (app : App) (r : Request) (route : Route) (parts : List String) :
    Action Memory Outcome := do
  match Call.read r route parts with
  | .error (.input whole issues) => return .done (refuseInput whole issues)
  | .error .unreadable => return .done unreadableBody
  | .error (.fault f) => answerOf f
  | .ok call =>
    match ← (call.perform app).capture with
    | .ok outcome => return outcome
    | .error f => answerOf f

/-- The type of the page of metrics. -/
def metricsType : String := "text/plain; version=0.0.4; charset=utf-8"

/-- What a request aims at. -/
def targetOf (app : App) (r : Request) : Target :=
  app.directory.target r.method r.path

/-- What is done for a request. -/
def outcome (app : App) (r : Request) : Action Memory Outcome :=
  match app.targetOf r with
  | .place (.route route) parts => app.follow r route parts
  | .place (.manual type) _ => return .done (.page type)
  | .place .metrics _ => return .done (.page metricsType)
  | .otherMethod first => return .done (methodNotAllowed first.allowed)
  | .moved path => return .done (moved (r.addressOf path))
  | .nothing => return .done notFound

/-- The path under which a request is counted. -/
def labelOf (app : App) (r : Request) : String :=
  if (inquiry? app.settings.security r).isSome then r.shownPath
  else ((app.targetOf r).label?).getD r.shownPath

/-- What is done for a request, callers from other origins included. -/
def answer (app : App) (r : Request) : Action Memory Outcome := do
  match inquiry? app.settings.security r with
  | some response => return .done response
  | none =>
    let o ← app.outcome r
    return { o with response := grant app.settings.security r o.response }

/-- Count an answered request. -/
def count (app : App) (r : Request) (response : Response) : Action Memory Unit :=
  Action.measure fun m => m.requestAnswered ⟨r.method, app.labelOf r, toString response.status⟩

/-- A request answered, identified and counted, unless that fails. -/
def identified (app : App) (r : Request) : Action Memory Outcome := do
  let id ← identify r
  Action.within [("request_id", .json (.string id))] do
    let o ← app.answer r
    app.count r o.response
    return { o with response := o.response.withHeader identifierHeader id }

/-- A response as it is sent. Where only its headers are asked for, it has no
    content. -/
def sent (r : Request) (response : Response) : Response :=
  if r.method == "HEAD" then { response with content := .text "" } else response

/-- A request answered. -/
def respond (app : App) (r : Request) (w : World Memory) : Outcome × World Memory :=
  match app.identified r w with
  | .ok o w => ({ o with response := sent r o.response }, w)
  | .error f w => (.done (sent r (internalError app.settings.debug f)), w)

/-- A request answered, and the campaign launched that it created. -/
def handle (app : App) (r : Request) (a : Agenda Memory) : Response × Agenda Memory :=
  let (o, w) := app.respond r a.world
  let answered := { a with world := w }.collect
  match o.launch with
  | some id => (o.response, answered.launchCampaign id w.fields)
  | none => (o.response, answered)

/-- The text of a content. -/
def contentText : Content → Text
  | .document v => v.rendered
  | .text s => s
  | .page => ""

/-- A document posted to the service itself. -/
def post (app : App) (url : Url) (body : Json) :
    Action Memory (Except Text Callback.Reply) := do
  let document := Json.write Json.tight body
  let r ← Action.ofExcept <|
    Request.make "POST" url.text [("content-type", "application/json")] document
  let w ← get
  let (o, w) := app.respond r w
  set w
  return .ok ⟨o.response.status, contentText o.response.content⟩

/-- The address that receipts are posted to. -/
def receiptAddress (app : App) : Text :=
  "http://engine.test" ++ app.settings.apiPrefix ++ Directory.version ++ Route.receive.label

/-- Receipts that are posted to the service itself. -/
def sink (app : App) : Receipt → Action Memory Unit :=
  Callback.deliver app.post app.receiptAddress

end App

end Api

end Outreach
