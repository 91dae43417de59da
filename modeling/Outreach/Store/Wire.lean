import Outreach.Json.Decode
import Outreach.World

/-!
# Entities on the Wire

Stored entities out of JSON objects. What an object does not give is filled
in: a timestamp by the time on the clock, an identifier by the next fresh one,
which is taken only after the members before it were read. Customers and
orders are checked and normalised; campaigns and records are taken as they
are.

## Main definitions

* `Customer.ofJson`, `Order.ofJson`, `DeliveryRecord.ofJson`,
  `Campaign.ofJson`: The entities of objects.
* `Rule.membersOfJson`: The rules of an object.
* `textOrEmpty`: A text that may be missing.
* `Customer.given`: The values of a customer as they are given.
-/

namespace Outreach

variable {σ : Type}

/-- A given timestamp, or the time on the clock. -/
def timeOrNow (v : Json) (name : String) : Action σ Timestamp := do
  let now ← Action.now
  Action.ofExcept (v.givenOr name Json.asTime now)

/-- A given identifier, or a fresh one. -/
def idOrFresh (v : Json) : Action σ Uuid := do
  match ← Action.ofExcept (v.givenAs? "id" Json.asUuid) with
  | some id => return id
  | none => Action.freshId

/-- A text that may be missing, in which case it counts as empty. -/
def textOrEmpty (v : Json) : Except Fault Text :=
  match v with
  | .text t => .ok t
  | v => if v.isEmptyLike then .ok .empty else .error .noAttribute

/-- Whether a value holds the mark of an email: a text as a character, a list as
    an item, an object as a name. A value that holds nothing has no answer. -/
def hasMark? : Json → Option Bool
  | .text t => some (t.points.contains (.char '@'))
  | .list items => some (items.any fun item =>
      match item with
      | .text t => t = ("@" : Text)
      | _ => false)
  | .object members => some (members.any fun m => m.1 = ("@" : Text))
  | _ => none

/-- The name, the email and the visits of a customer as they are given, checked
    together with what the customer spent. That an email is no text is only
    found out after all other checks. -/
def Customer.given (name email : Json) (spends : Double) (visits : Json) :
    Except Fault (Text × Text × Int) := do
  let name ← textOrEmpty name
  if name.isBlankText then throw .emptyCustomerName
  if email.isEmptyLike then throw (.invalidEmail email.shown)
  match hasMark? email with
  | none => throw .wrongType
  | some false => throw (.invalidEmail email.shown)
  | some true =>
    if spends.lt Double.zero then throw .negativeSpends
    let visits ← visits.asInt
    if visits < 0 then throw .negativeVisits
    match email with
    | .text t => return (name, t, visits)
    | _ => throw .noAttribute

/-- The rules of an object, none if it gives none. -/
def Rule.membersOfJson (v : Json) : Except Fault (List Rule) :=
  match v.member? "rules" with
  | some rules => Rule.listOfValue rules
  | none => .ok []

/-- The customer of an object with the given name and email. -/
def Customer.ofJson (v name email : Json) : Action σ Customer := do
  let spends ← Action.ofExcept (v.givenOr "total_spends" Json.asDouble Double.zero)
  let lastVisit ← timeOrNow v "last_visit"
  let createdAt ← timeOrNow v "created_at"
  let id ← idOrFresh v
  Action.ofExcept do
    let visits := (v.given? "visits").getD (.int 0)
    let (name, email, visits) ← Customer.given name email spends visits
    let phone := (v.member? "phone").getD .null
    Customer.validated ⟨id, name, email, phone, spends, visits, lastVisit, createdAt⟩

/-- The order of an object. -/
def Order.ofJson (v : Json) : Action σ Order := do
  let amount ← Action.ofExcept (v.member "amount" >>= Json.asDouble)
  let date ← Action.ofExcept (v.member "date" >>= Json.asTime)
  let createdAt ← timeOrNow v "created_at"
  let id ← idOrFresh v
  Action.ofExcept do
    let email ← v.member "customer_email" >>= Json.asText
    let items := v.items "items"
    Order.validated ⟨id, email, amount, date, items, createdAt⟩

/-- The record of an object. -/
def DeliveryRecord.ofJson (v : Json) : Action σ DeliveryRecord := do
  let campaignId ← Action.ofExcept (v.member "campaign_id" >>= Json.asUuid)
  let customerId ← Action.ofExcept (v.member "customer_id" >>= Json.asUuid)
  let status ← Action.ofExcept (v.givenOr "status" statusOf .pending)
  let createdAt ← timeOrNow v "created_at"
  let updatedAt ← timeOrNow v "updated_at"
  let id ← idOrFresh v
  Action.ofExcept do
    let email ← v.member "customer_email" >>= Json.asText
    let message ← v.member "message" >>= Json.asText
    return ⟨id, campaignId, customerId, email, message, status, createdAt, updatedAt⟩

/-- The state of a campaign that a value names. -/
def campaignStatusOf (word : Json) : Except Fault CampaignStatus :=
  match (Rule.wordOf? word).bind CampaignStatus.ofText? with
  | some s => .ok s
  | none => .error (.unknownWord word .campaignStatus)

/-- The campaign of an object. -/
def Campaign.ofJson (v : Json) : Action σ Campaign := do
  let rules ← Action.ofExcept (Rule.membersOfJson v)
  let status ← Action.ofExcept (v.givenOr "status" campaignStatusOf .pending)
  let createdAt ← timeOrNow v "created_at"
  let updatedAt ← timeOrNow v "updated_at"
  Action.ofExcept do
    let id ← v.member "id" >>= Json.asUuid
    let name ← v.member "name" >>= Json.asText
    let message ← v.member "message" >>= Json.asText
    let size ← v.member "audience_size" >>= Json.asInt
    let sent ← v.givenOr "sent_count" Json.asInt 0
    let failed ← v.givenOr "failed_count" Json.asInt 0
    return ⟨id, name, message, rules, size, status, sent, failed, createdAt, updatedAt⟩

end Outreach
