import Outreach.Proofs.Action
import Outreach.Service.Campaigns
import Outreach.Service.Customers
import Outreach.Service.Receipts

/-!
# Calls in Stages

The five calls that change a store, cut where another call may come in
between. A stage says how far a call has got and holds what the rest of the
call needs. One step runs a call from one stage to the next with the very
pieces that the call is put together from, and reaches the store at most once.

A step may end the call, with what it returns or with a failure.

## Main definitions

* `Progress`: How far a call has got.
* `Progress.after`: The progress that a step makes, and the world after it.
* `Customers.Stage`, `Orders.Stage`, `Campaigns.Stage`, `Dispatch.Stage`,
  `Receipts.Stage`: The stages of each call.
* `Customers.advance`, `Orders.advance`, `Campaigns.advance`,
  `Dispatch.advance`, `Receipts.advance`: The steps of each call.
-/

namespace Outreach

/-- How far a call has got that returns an `α`: it is at a stage, or it has
    ended. -/
inductive Progress (S α : Type)
  | underway (stage : S)
  | returned (a : α)
  | raised (f : Fault)

variable {σ S α : Type}

/-- Whether a call has not ended. -/
def Progress.isUnderway : Progress S α → Bool
  | .underway _ => true
  | .returned _ => false
  | .raised _ => false

/-- The progress that a step makes, and the world after it. A failure ends the
    call. -/
def Progress.after (step : Action σ (Progress S α)) (w : World σ) :
    Progress S α × World σ :=
  match step w with
  | .ok p v => (p, v)
  | .error f v => (.raised f, v)

/-- What holds at the end of a step holds of its progress. -/
theorem Progress.holds_after {step : Action σ (Progress S α)} {w : World σ}
    {R : Progress S α → World σ → Prop} (h : Action.Ends step w R fun f v => R (.raised f) v) :
    R (Progress.after step w).1 (Progress.after step w).2 := by
  unfold Action.Ends at h
  unfold Progress.after
  cases hstep : step w with
  | ok p v =>
      rw [hstep] at h
      exact h
  | error f v =>
      rw [hstep] at h
      exact h

variable [Repository σ]

namespace Customers

/-- The stages of taking a customer in. -/
inductive Stage
  | drafting
  /-- The email is looked up. -/
  | checking (c : Customer)
  | storing (c : Customer)

/-- The next step of taking a customer in. -/
def advance (args : NewCustomer) : Stage → Action σ (Progress Stage Customer)
  | .drafting => do
    let c ← draft args
    return .underway (.checking c)
  | .checking c => do
    match ← (ensureNew c).capture with
    | .error f => throw (faultOf f)
    | .ok _ => return .underway (.storing c)
  | .storing c => do
    match ← (Repository.saveCustomer c).capture with
    | .error f => throw (faultOf f)
    | .ok c =>
      announce c
      return .returned c

end Customers

namespace Orders

/-- The stages of taking an order in. -/
inductive Stage
  | drafting
  | storing (o : Order) (arrival : Timestamp)
  /-- The order, as it was drafted and as it was stored, is applied to its
      customer. -/
  | applying (o stored : Order) (arrival : Timestamp)

/-- The next step of taking an order in. -/
def advance (args : NewOrder) : Stage → Action σ (Progress Stage Order)
  | .drafting => do
    let arrival ← Action.now
    let o ← draft args
    return .underway (.storing o arrival)
  | .storing o arrival => do
    let stored ← Repository.saveOrder o
    return .underway (.applying o stored arrival)
  | .applying o stored arrival => do
    apply stored arrival
    return .returned o

end Orders

/-- What a caller gives for a new campaign. -/
structure NewCampaign where
  name : Text
  message : Text
  rules : List Rule
  deriving Inhabited

namespace Campaigns

/-- The stages of creating a campaign. -/
inductive Stage
  | compiling
  /-- The audience is counted. -/
  | counting (p : Predicate)
  | drafting (size : Nat)
  | storing (c : Campaign) (size : Nat)

/-- The next step of creating a campaign. -/
def advance (args : NewCampaign) : Stage → Action σ (Progress Stage Campaign)
  | .compiling => do
    let p ← compileAt args.rules none
    return .underway (.counting p)
  | .counting p => do
    let size ← Audience.count p
    return .underway (.drafting size)
  | .drafting size => do
    let c ← draft args.name args.message args.rules size
    return .underway (.storing c size)
  | .storing c size => do
    let c ← unitOfWork (Repository.saveCampaign c)
    announce c size
    return .returned c

end Campaigns

/-- What a caller gives to start a campaign. -/
structure NewDispatch where
  campaignId : Uuid
  rules : List Rule
  template : Text
  now : Option Timestamp
  deriving Inhabited

namespace Dispatch

/-- The stages of starting a campaign. -/
inductive Stage
  | compiling
  | claiming (p : Predicate)
  /-- The campaign was not pending. -/
  | refusing
  /-- From here on the campaign is claimed. -/
  | resolving (campaign : Campaign) (p : Predicate)
  /-- The claimed campaign has to be put back because of a failure. -/
  | releasing (f : Fault)
  | drafting (campaign : Campaign) (customers : List Customer)
  | storing (customers : List Customer) (records : List DeliveryRecord)
  /-- The records are stored, and `rest` is still to be handed over. -/
  | handing (records : List DeliveryRecord) (rest : List (DeliveryRecord × Customer))
  /-- Whether the campaign was completed at dispatch is known. -/
  | closing (records : List DeliveryRecord) (completed : Bool)

/-- The next step of starting a campaign. -/
def advance (args : NewDispatch) : Stage → Action σ (Progress Stage (List DeliveryRecord))
  | .compiling => do
    let p ← compileAt args.rules args.now
    return .underway (.claiming p)
  | .claiming p => do
    match ← mark args.campaignId with
    | some campaign => return .underway (.resolving campaign p)
    | none => return .underway .refusing
  | .refusing => refuse args.campaignId
  | .resolving campaign p => do
    match ← tryResolve args.campaignId p with
    | .ok customers => return .underway (.drafting campaign customers)
    | .error f => return .underway (.releasing f)
  | .releasing f => do
    release args.campaignId
    throw f
  | .drafting campaign customers => do
    noteChange campaign customers.length
    let records ← draft args.campaignId args.template customers
    return .underway (.storing customers records)
  | .storing customers records => do
    match ← tryStore args.campaignId records with
    | .ok records =>
      announce args.campaignId records.length
      return .underway (.handing records (records.zip customers))
    | .error f => return .underway (.releasing f)
  | .handing records ((record, customer) :: rest) => do
    Action.send record customer
    return .underway (.handing records rest)
  | .handing records [] => do
    let completed ← unitOfWork (Repository.completeIfExhausted args.campaignId)
    return .underway (.closing records completed)
  | .closing records completed => do
    noteCompletion args.campaignId completed
    return .returned records

end Dispatch

namespace Receipts

/-- The stages of recording a receipt. -/
inductive Stage
  /-- The reported state has to be an outcome. -/
  | checking
  | finding
  | settling (record : DeliveryRecord)
  /-- The record was settled by this receipt, which is still to be counted for
      its campaign. -/
  | counting (record : DeliveryRecord)

/-- The next step of recording a receipt. -/
def advance (args : Receipt) : Stage → Action σ (Progress Stage ReceiptResult)
  | .checking => do
    ensureOutcome args.outcome
    return .underway .finding
  | .finding => do
    let record ← find args.recordId
    return .underway (.settling record)
  | .settling record => do
    if ← settle args.recordId args.outcome then
      return .underway (.counting record)
    else
      noteDuplicate args.recordId
      return .returned ⟨args.recordId, record.campaignId, false, false, true⟩
  | .counting record => do
    let update ← Repository.recordOutcome record.campaignId args.outcome
    noteUpdate { record with id := args.recordId } args.outcome update
    return .returned
      ⟨args.recordId, record.campaignId, update.counted, update.completed, false⟩

end Receipts

end Outreach
