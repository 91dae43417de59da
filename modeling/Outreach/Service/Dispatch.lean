import Outreach.Delivery.Message
import Outreach.Service.Audience

/-!
# Dispatching Campaigns

A pending campaign is claimed, its audience resolved, one message rendered per
recipient, the records stored in one batch and handed to the sender. When the
audience cannot be resolved or the records cannot be stored, the campaign is
put back. A campaign without recipients is completed at once.

The call is put together from pieces that touch the store at most once.

## Main definitions

* `Dispatch.claim`: The campaign, as it is being sent.
* `Dispatch.draft`: The records of a batch.
* `Dispatch.start`: The call.
-/

namespace Outreach

namespace Dispatch

variable {σ : Type}

/-- The record for a recipient. -/
def draftOne (campaignId : Uuid) (template : Text) (c : Customer) :
    Action σ DeliveryRecord := do
  let id ← Action.freshId
  let now ← Action.now
  return ⟨id, campaignId, c.id, c.email, render template c.name, .pending, now, now⟩

/-- The records for all recipients, in order. -/
def draft (campaignId : Uuid) (template : Text) (customers : List Customer) :
    Action σ (List DeliveryRecord) :=
  customers.mapM (draftOne campaignId template)

/-- Note that the audience is not of the size it had when the campaign was
    created. -/
def noteChange (campaign : Campaign) (found : Nat) : Action σ Unit := do
  if (found : Int) ≠ campaign.audienceSize then
    Action.note .warning .deliveries
      ("Campaign " ++ campaign.id.text ++ " audience changed since creation (" ++
        toString campaign.audienceSize ++ " -> " ++ toString found ++ " customers)")

/-- Count a dispatch and note it. -/
def announce (campaignId : Uuid) (recipients : Nat) : Action σ Unit := do
  Action.measure fun m => (m.campaignStarted (.whole recipients)).1
  let name := (← get).sender.name
  Action.note .info .deliveries
    ("Campaign " ++ campaignId.text ++ " dispatching " ++ toString recipients ++
      " messages via " ++ name)

/-- Hand the records of a batch over. -/
def handOver : List (DeliveryRecord × Customer) → Action σ Unit
  | [] => pure ()
  | (record, customer) :: rest => do
    Action.send record customer
    handOver rest

/-- Count a completion at dispatch and note it. -/
def noteCompletion (campaignId : Uuid) (completed : Bool) : Action σ Unit := do
  if completed then
    Action.measure Metrics.campaignCompleted
    Action.note .info .deliveries ("Campaign " ++ campaignId.text ++ " completed at dispatch")

variable [Repository σ]

/-- Start a pending campaign; none if it is not pending. -/
def mark (id : Uuid) : Action σ (Option Campaign) := do
  match ← (Repository.markSending id).capture with
  | .ok c => return c
  -- The store names the entity; callers are told about the campaign.
  | .error (.entityNotFound ..) => throw (.campaignNotFound id)
  | .error f => throw f

/-- Refuse a campaign that is not pending. -/
def refuse {α : Type} (id : Uuid) : Action σ α := do
  let current ← Repository.campaignById id
  throw (.alreadyStarted id (current.map Campaign.status))

/-- The campaign, as it is being sent. -/
def claim (id : Uuid) : Action σ Campaign :=
  unitOfWork do
    match ← mark id with
    | some c => return c
    | none => refuse id

/-- Put a claimed campaign back. -/
def release (id : Uuid) : Action σ Unit :=
  unitOfWork (Repository.releaseToPending id)

/-- The audience of a claimed campaign, or the failure because of which the
    campaign has to be put back. -/
def tryResolve (id : Uuid) (p : Predicate) : Action σ (Except Fault (List Customer)) := do
  match ← (Audience.resolve p).capture with
  | .ok customers => return .ok customers
  | .error (.resolverUnavailable reason) =>
    Action.note .error .deliveries
      ("Audience unavailable for campaign " ++ id.text ++ ", releasing to pending")
    return .error (.resolverUnavailable reason)
  | .error f => throw f

/-- The audience of a claimed campaign, which is put back when the audience
    cannot be resolved. -/
def resolveOrRelease (id : Uuid) (p : Predicate) : Action σ (List Customer) := do
  match ← tryResolve id p with
  | .ok customers => return customers
  | .error f =>
    release id
    throw f

/-- The records of a claimed campaign as they were stored, or the failure
    because of which the campaign has to be put back. -/
def tryStore (id : Uuid) (records : List DeliveryRecord) :
    Action σ (Except Fault (List DeliveryRecord)) := do
  match ← (unitOfWork (Repository.saveRecords records)).capture with
  | .ok stored => return .ok stored
  | .error f =>
    -- Any other failure is not the store's, and the campaign stays claimed.
    if f.isRepository then
      Action.note .error .deliveries
        ("Delivery records for campaign " ++ id.text ++ " not saved (" ++ f.message ++
          "), releasing to pending")
      return .error f
    else throw f

/-- Store the records of a claimed campaign, which is put back when the store
    refuses them. -/
def storeOrRelease (id : Uuid) (records : List DeliveryRecord) :
    Action σ (List DeliveryRecord) := do
  match ← tryStore id records with
  | .ok stored => return stored
  | .error f =>
    release id
    throw f

/-- Dispatch a campaign to the customers that satisfy some rules. -/
def start (id : Uuid) (rules : List Rule) (template : Text) (now : Option Timestamp) :
    Action σ (List DeliveryRecord) := do
  -- Rules that do not compile leave the campaign pending.
  let p ← compileAt rules now
  let campaign ← claim id
  -- From here on the campaign is claimed, and put back if its audience or its records fail.
  let customers ← resolveOrRelease id p
  noteChange campaign customers.length
  let records ← draft id template customers
  let records ← storeOrRelease id records
  -- From here on messages may have gone out, so nothing is put back any more.
  announce id records.length
  handOver (records.zip customers)
  -- Without recipients no receipt will ever complete the campaign.
  let completed ← unitOfWork (Repository.completeIfExhausted id)
  noteCompletion id completed
  return records

end Dispatch

end Outreach
