import Outreach.Audience.Predicate
import Outreach.World

/-!
# Repositories

What a store has to offer. Calls reach it inside a unit of work, which ends
with a commit or, after a failure, with a roll-back.

## Main definitions

* `Page`, `Page.of`: Parts of listings.
* `Repository`: The operations of a store.
* `unitOfWork`: An action as a unit of work.
-/

namespace Outreach

/-- A part of a listing: how many entries are taken and how many are passed
    over. -/
structure Page where
  limit : Int
  offset : Int
  deriving DecidableEq, Inhabited

/-- The place that a number means in a list of a given length; a negative one
    counts from the end. -/
def placeIn (length : Nat) (n : Int) : Nat :=
  if n < 0 then (length + n).toNat else n.toNat

/-- The entries of a page: those from the place of its offset to the place
    where its limit ends. -/
def Page.of {α : Type} (p : Page) (xs : List α) : List α :=
  (xs.take (placeIn xs.length (p.offset + p.limit))).drop (placeIn xs.length p.offset)

/-- The operations of a store. -/
class Repository (σ : Type) where
  /-- Begin a unit of work. -/
  begin : Action σ Unit
  /-- Make the changes of a unit of work last. -/
  commit : Action σ Unit
  /-- Give the changes of a unit of work up because of a failure. -/
  rollback : Fault → Action σ Unit
  saveCustomer : Customer → Action σ Customer
  customerById : Uuid → Action σ (Option Customer)
  customerByEmail : Text → Action σ (Option Customer)
  countMatching : Predicate → Action σ Nat
  /-- The customers that satisfy a predicate, by creation time and
      identifier. -/
  findMatching : Predicate → Action σ (List Customer)
  /-- Apply an order to the customer with an email, if there is one. -/
  applyOrder : Text → Double → Timestamp → Action σ Bool
  /-- Customers by creation time and identifier. -/
  listCustomers : Page → Action σ (List Customer)
  countCustomers : Action σ Nat
  saveCampaign : Campaign → Action σ Campaign
  campaignById : Uuid → Action σ (Option Campaign)
  /-- Campaigns by creation time, newest first. -/
  listCampaigns : Page → Action σ (List Campaign)
  countCampaigns : Action σ Nat
  /-- Start a pending campaign; none if it is not pending. -/
  markSending : Uuid → Action σ (Option Campaign)
  /-- Put a campaign back that is being sent and has no outcomes. -/
  releaseToPending : Uuid → Action σ Unit
  recordOutcome : Uuid → DeliveryStatus → Action σ CounterUpdate
  completeIfExhausted : Uuid → Action σ Bool
  saveRecord : DeliveryRecord → Action σ DeliveryRecord
  saveRecords : List DeliveryRecord → Action σ (List DeliveryRecord)
  recordById : Uuid → Action σ (Option DeliveryRecord)
  settleRecord : Uuid → DeliveryStatus → Action σ Bool
  /-- The records of a campaign, in one state if one is given, by creation time
      and identifier. -/
  recordsOf : Uuid → Page → Option DeliveryStatus → Action σ (List DeliveryRecord)
  /-- How many records were created at or after a time. -/
  countSince : Timestamp → Action σ Nat
  saveOrder : Order → Action σ Order
  orderById : Uuid → Action σ (Option Order)
  /-- Orders by date, newest first. -/
  listOrders : Page → Action σ (List Order)
  countOrders : Action σ Nat

/-- An action as a unit of work. -/
def unitOfWork {σ α : Type} [Repository σ] (body : Action σ α) : Action σ α := do
  Repository.begin
  match ← body.capture with
  | .ok a =>
    Repository.commit
    return a
  | .error f =>
    Repository.rollback f
    throw f

end Outreach
