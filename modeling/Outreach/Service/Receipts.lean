import Outreach.Store.Repository

/-!
# Recording Receipts

A receipt settles its record and is counted for the campaign. Only the first
receipt of a record does so: later ones are duplicates and change nothing, and
neither do receipts for unknown records.

The call is put together from pieces that touch the store at most once.

## Main definitions

* `ReceiptResult`: What a receipt changed.
* `Receipts.record`: The call.
* `Receipts.deliver`: The same for a vendor, which is not told about unknown
  records.
-/

namespace Outreach

/-- What a receipt changed. -/
structure ReceiptResult where
  recordId : Uuid
  campaignId : Uuid
  /-- The receipt was counted for the campaign. -/
  counted : Bool
  /-- The receipt completed the campaign. -/
  completed : Bool
  /-- The record was settled before. -/
  duplicate : Bool
  deriving DecidableEq, Inhabited

namespace Receipts

variable {σ : Type}

/-- Refuse a state that is no outcome. -/
def ensureOutcome (outcome : DeliveryStatus) : Action σ Unit := do
  if !outcome.isOutcome then throw (.notAReceipt outcome.text)

/-- Note a duplicate. -/
def noteDuplicate (id : Uuid) : Action σ Unit := do
  Action.measure fun m => m.receiptDropped "duplicate"
  Action.note .info .deliveries ("Duplicate receipt for delivery record " ++ id.text ++ " ignored")

/-- Note what a receipt changed. -/
def noteUpdate (record : DeliveryRecord) (outcome : DeliveryStatus) (update : CounterUpdate) :
    Action σ Unit := do
  Action.measure fun m => m.receiptRecorded outcome.text
  if !update.counted then
    Action.note .warning .deliveries
      ("Receipt for record " ++ record.id.text ++ " not counted: campaign " ++
        record.campaignId.text ++ " is not sending or already exhausted")
  if update.completed then
    Action.measure Metrics.campaignCompleted
    Action.note .info .deliveries ("Campaign " ++ record.campaignId.text ++ " completed")

variable [Repository σ]

/-- The record that a receipt refers to. -/
def find (id : Uuid) : Action σ DeliveryRecord := do
  match ← Repository.recordById id with
  | some record => return record
  | none =>
    Action.measure fun m => m.receiptDropped "unknown"
    Action.note .warning .deliveries
      ("Receipt for unknown delivery record " ++ id.text ++ " dropped")
    throw (.unknownRecord id)

/-- Settle a record. -/
def settle (id : Uuid) (outcome : DeliveryStatus) : Action σ Bool := do
  match ← (Repository.settleRecord id outcome).capture with
  | .ok settled => return settled
  | .error (.entityNotFound ..) => throw (.unknownRecord id)
  | .error f => throw f

/-- What happens to the store: the record, and what was counted unless the
    receipt is a duplicate. -/
def apply (id : Uuid) (outcome : DeliveryStatus) :
    Action σ (DeliveryRecord × Option CounterUpdate) := do
  let record ← find id
  -- Settling and counting are one unit of work, so a record that is settled is counted.
  if ← settle id outcome then
    let update ← Repository.recordOutcome record.campaignId outcome
    return (record, some update)
  else
    noteDuplicate id
    return (record, none)

/-- Record a receipt. -/
def record (id : Uuid) (outcome : DeliveryStatus) : Action σ ReceiptResult := do
  ensureOutcome outcome
  match ← unitOfWork (apply id outcome) with
  | (record, some update) =>
    -- Metrics and log come after the unit of work, which may still fail to commit.
    noteUpdate { record with id := id } outcome update
    return ⟨id, record.campaignId, update.counted, update.completed, false⟩
  | (record, none) => return ⟨id, record.campaignId, false, false, true⟩

/-- Record a receipt for a vendor. That a record is unknown has been noted and
    is not reported. -/
def deliver (receipt : Receipt) : Action σ Unit := do
  match ← (record receipt.recordId receipt.outcome).capture with
  | .ok _ => return ()
  | .error (.unknownRecord _) => return ()
  | .error f => throw f

end Receipts

end Outreach
