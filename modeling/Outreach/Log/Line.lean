import Outreach.Json.Display
import Outreach.Number.Literal
import Outreach.Uuid

/-!
# Log Lines

What a call leaves in the log: a level, the channel of the part that speaks,
a message and the fields of the context in which it was written.

## Main definitions

* `Log.Level`: The levels.
* `Log.Channel`: The parts that speak.
* `Named`: Values with names.
* `Named.put`, `Named.merge`: Named values with one set, and with others put over them.
* `Log.fitsDigits`: Whether a value can be put into words.
* `Log.Value`: Values of any kind.
* `Log.FieldValue`, `Log.Fields`: Named values that lines carry.
* `Log.Line`: A line.
-/

namespace Outreach

/-- Values with names, in order; no name occurs twice. -/
abbrev Named (α : Type) := List (Text × α)

namespace Named

variable {α : Type}

/-- The value under a name. -/
def value? (ms : Named α) (name : Text) : Option α :=
  (ms.find? fun m => m.1 = name).map Prod.snd

/-- Named values with one set: a name that is present keeps its place, and a
    new name comes last. -/
def put (ms : Named α) (name : Text) (v : α) : Named α :=
  if ms.any fun m => m.1 = name then ms.map fun m => if m.1 = name then (name, v) else m
  else ms ++ [(name, v)]

/-- Named values with others put over them. -/
def merge (ms others : Named α) : Named α :=
  others.foldl (fun all m => put all m.1 m.2) ms

end Named

namespace Log

/-- How grave a line is. -/
inductive Level
  | debug
  | info
  | warning
  | error
  | critical
  deriving DecidableEq, Inhabited

/-- The name of a level. -/
def Level.text : Level → String
  | .debug => "DEBUG"
  | .info => "INFO"
  | .warning => "WARNING"
  | .error => "ERROR"
  | .critical => "CRITICAL"

/-- A part of the program that writes lines. -/
inductive Channel
  | audience
  | campaigns
  | customers
  | deliveries
  | transactions
  | campaignRows
  | deliveryRows
  | database
  | vendor
  | sinks
  | assembly
  | api
  | requests
  | webhooks
  deriving DecidableEq, Inhabited

/-- The name under which a part writes. -/
def Channel.text : Channel → String
  | .audience => "campaign_engine.core.services.audience_service"
  | .campaigns => "campaign_engine.core.services.campaign_service"
  | .customers => "campaign_engine.core.services.customer_service"
  | .deliveries => "campaign_engine.core.services.delivery_service"
  | .transactions => "campaign_engine.adapters.db.unit_of_work"
  | .campaignRows => "campaign_engine.adapters.db.repositories.campaign_repo"
  | .deliveryRows => "campaign_engine.adapters.db.repositories.delivery_repo"
  | .database => "campaign_engine.adapters.db.postgres"
  | .vendor => "campaign_engine.adapters.vendors.simulated_sender"
  | .sinks => "campaign_engine.adapters.vendors.receipt_sinks"
  | .assembly => "campaign_engine.core.container"
  | .api => "campaign_engine.api.main"
  | .requests => "campaign_engine.api.middleware.request_id"
  | .webhooks => "campaign_engine.api.routes.v1.webhooks"

/-- Whether a value can be put into words, for which none of its integers may
    have too many digits. -/
def fitsDigits : Json → Bool
  | .int n => decide ((decimalDigits n.natAbs).length ≤ wholeDigitLimit)
  | .list items => itemsFit items
  | .object members => membersFit members
  | _ => true
where
  /-- The items of a list. -/
  itemsFit : List Json → Bool
    | [] => true
    | item :: rest => fitsDigits item && itemsFit rest
  /-- The members of an object. -/
  membersFit : List (Text × Json) → Bool
    | [] => true
    | (_, value) :: rest => fitsDigits value && membersFit rest

/-- A value of any kind. -/
inductive Value
  | json (v : Json)
  | id (u : Uuid)
  /-- An object of another kind: its text, and how it is shown inside a
      message. -/
  | other (text : Text) (shown : String)
  deriving Inhabited

namespace Value

/-- A value that has a form of its own in a document. -/
def json? : Value → Option Json
  | .json v => some v
  | _ => none

/-- Whether a value can be put into words. -/
def fitsDigits : Value → Bool
  | .json v => Log.fitsDigits v
  | _ => true

/-- A value as a text. -/
def plain : Value → Text
  | .json v => v.plain
  | .id u => u.text
  | .other text _ => text

/-- A value as it is shown inside a message. -/
def shown : Value → String
  | .json v => v.shown
  | .id u => "UUID('" ++ u.text ++ "')"
  | .other _ shown => shown

/-- The values that count as absent. -/
def isEmptyLike : Value → Bool
  | .json v => v.isEmptyLike
  | _ => false

end Value

/-- A value that a line carries. -/
inductive FieldValue
  | json (v : Json)
  | id (u : Uuid)
  deriving Inhabited

/-- A value that a line carries, among all values. -/
def FieldValue.value : FieldValue → Value
  | .json v => .json v
  | .id u => .id u

/-- Named values that lines carry. -/
abbrev Fields := Named FieldValue

/-- The value of a field. -/
def Fields.find? (fields : Fields) (name : Text) : Option FieldValue :=
  Named.value? fields name

/-- Fields with others put over them. -/
def Fields.merge (fields others : Fields) : Fields :=
  Named.merge fields others

/-- A line of the log. -/
structure Line where
  level : Level
  channel : Channel
  message : Text
  fields : Fields
  deriving Inhabited

end Log

end Outreach
