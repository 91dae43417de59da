/-!
# Delivery States

The state of one recipient's message: pending until the vendor reports an
outcome, then sent or failed.

## Main definitions

* `DeliveryStatus`: The states.
* `DeliveryStatus.text`, `DeliveryStatus.ofText?`: Their texts.
* `DeliveryStatus.isOutcome`: The states that a vendor reports.
-/

namespace Outreach

/-- The state of one recipient's message. -/
inductive DeliveryStatus
  | pending
  | sent
  | failed
  deriving DecidableEq, Inhabited

namespace DeliveryStatus

/-- The text of a state. -/
def text : DeliveryStatus → String
  | .pending => "PENDING"
  | .sent => "SENT"
  | .failed => "FAILED"

/-- The state with a text. -/
def ofText? (s : String) : Option DeliveryStatus :=
  [pending, sent, failed].find? fun d => d.text == s

/-- The states that a vendor reports. -/
def isOutcome : DeliveryStatus → Bool
  | .pending => false
  | .sent => true
  | .failed => true

/-- A state as messages name it. -/
def qualified (d : DeliveryStatus) : String :=
  "DeliveryStatus." ++ d.text

theorem ofText?_text (d : DeliveryStatus) : ofText? d.text = some d := by
  cases d <;> decide

end DeliveryStatus

end Outreach
