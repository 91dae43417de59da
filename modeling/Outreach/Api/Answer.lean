import Outreach.Api.Message
import Outreach.Api.Rendering

/-!
# Successes and Refusals

How the outcome of a request becomes a response. A call that succeeds is
answered with a document. A call that fails is answered with a label and the
wording of its failure if the caller can do something about it, and otherwise
as an internal error, which says no more unless faults are being looked for.
An input of the wrong form is answered with all its issues, each with the
value that it is about.

A document that cannot travel is answered as an invalid request.

## Main definitions

* `Fault.answer?`: The status and the label of a failure.
* `succeed`: The response to a call that succeeds.
* `whole`: A document that travels as a whole.
* `failure`, `internalError`: The responses to calls that fail.
* `refuseInput`: The response to an input of the wrong form.
* `notFound`, `methodNotAllowed`, `unreadableBody`, `moved`: The others.
-/

namespace Outreach

/-- The status and the label under which a failure is answered, if the caller
    can do something about it. -/
def Fault.answer? : Fault → Option (Nat × String)
  | .ruleMember .. | .ruleWord .. | .ruleValue .. => some (400, "Invalid rule")
  | .resolverUnavailable _ => some (503, "Customer store unavailable")
  | .unknownRecord _ => some (404, "Unknown delivery record")
  | .campaignNotFound _ => some (404, "Campaign not found")
  | .alreadyStarted .. => some (409, "Campaign already started")
  | .duplicateCustomer _ => some (409, "Duplicate customer")
  | f => if f.isValue then some (422, "Invalid request") else none

namespace Api

/-- The response to a failure. -/
def failure (status : Nat) (label : String) (detail : Text) : Response :=
  .document status (.record [("error", .string label), ("detail", .text detail)])

/-- The response to a request that is not acceptable. -/
def invalid (detail : String) : Response :=
  failure 422 "Invalid request" detail

/-- The response to a call that succeeds. -/
def succeed (status : Nat) (value : Json) : Response :=
  match value.encodingFlaw? with
  | some flaw => invalid ("Error serializing to JSON: UnicodeEncodeError: " ++ flaw)
  | none => .document status value

/-- A document that travels as a whole. -/
def whole (status : Nat) (document : Json) : Response :=
  match document.rendered.encodingFlaw? with
  | some flaw => invalid flaw
  | none => .document status document

/-- The response to a failure of the service itself. -/
def internalError (debug : Bool) (f : Fault) : Response :=
  let detail : Text := if debug then f.message else "An error occurred"
  failure 500 "Internal server error" detail

/-- A document with a detail. -/
def detail (status : Nat) (value : Json) : Response :=
  .document status (.record [("detail", value)])

/-- What is wrong with an input, as a document. -/
def issuesDocument (input : Json) (is : List Issue) : Json :=
  .record [("detail", .list (is.map (Issue.report input)))]

/-- The response to an input of the wrong form. -/
def refuseInput (input : Json) (is : List Issue) : Response :=
  let document := issuesDocument input is
  if document.isStandard then whole 422 document
  else invalid "Out of range float values are not JSON compliant"

/-- The response to a path at which there is nothing. -/
def notFound : Response :=
  detail 404 "Not Found"

/-- The response to a method that is not allowed, given one that is. -/
def methodNotAllowed (allowed : String) : Response :=
  (detail 405 "Method Not Allowed").withHeader "allow" allowed

/-- The response to a body that cannot be read. -/
def unreadableBody : Response :=
  detail 400 "There was an error parsing the body"

/-- The response that refers to another address. -/
def moved (address : String) : Response :=
  (Response.mk 307 (.text "") []).withHeader "location" address

end Api

end Outreach
