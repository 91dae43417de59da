import Outreach.Fault
import Outreach.Time.Iso

/-!
# Delivery Records and Receipts

One record per recipient of a campaign. It leaves the pending state at most
once, with the first outcome that is reported for it; later outcomes change
nothing. A receipt reports an outcome for a record.

## Main definitions

* `DeliveryRecord`: A record.
* `DeliveryRecord.settle`: A record after an outcome.
* `Receipt`: A reported outcome.
* `statusOf`: The state that a value names.
-/

namespace Outreach

/-- The message to one recipient of a campaign. -/
structure DeliveryRecord where
  id : Uuid
  campaignId : Uuid
  customerId : Uuid
  customerEmail : Text
  message : Text
  status : DeliveryStatus
  createdAt : Timestamp
  updatedAt : Timestamp
  deriving DecidableEq, Inhabited

namespace DeliveryRecord

/-- A record after an outcome, and whether the outcome settled it. -/
def settle (r : DeliveryRecord) (outcome : DeliveryStatus) (now : Timestamp) :
    Except Fault (DeliveryRecord × Bool) :=
  if !outcome.isOutcome then .error (.notAnOutcome outcome.qualified)
  else if r.status ≠ .pending then .ok (r, false)
  else .ok ({ r with status := outcome, updatedAt := now }, true)

/-- A record as a JSON object. -/
def toJson (r : DeliveryRecord) : Json :=
  .record [("id", .string r.id.text), ("campaign_id", .string r.campaignId.text),
    ("customer_id", .string r.customerId.text), ("customer_email", .text r.customerEmail),
    ("message", .text r.message), ("status", .string r.status.text),
    ("created_at", .string r.createdAt.iso), ("updated_at", .string r.updatedAt.iso)]

end DeliveryRecord

/-- An outcome that a vendor reports for a record. -/
structure Receipt where
  recordId : Uuid
  outcome : DeliveryStatus
  deriving DecidableEq, Inhabited

/-- A receipt, whose outcome must be one. -/
def Receipt.make (recordId : Uuid) (outcome : DeliveryStatus) : Except Fault Receipt :=
  if outcome.isOutcome then .ok ⟨recordId, outcome⟩
  else .error (.notAReceipt outcome.qualified)

/-- The state that a value names. -/
def statusOf (word : Json) : Except Fault DeliveryStatus :=
  match word with
  | .text t =>
    match t.string?.bind DeliveryStatus.ofText? with
    | some d => .ok d
    | none => .error (.unknownWord word .deliveryStatus)
  | _ => .error (.unknownWord word .deliveryStatus)

end Outreach
