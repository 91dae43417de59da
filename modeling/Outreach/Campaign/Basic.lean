import Outreach.Fault
import Outreach.Number.Arithmetic
import Outreach.Rule.Wire
import Outreach.Text.Blank
import Outreach.Time.Iso

/-!
# Campaigns

One message to the audience that its rules select. The size of the audience
is fixed when the campaign is created and is the target of its two counters.
A campaign is started once, counts outcomes while it is being sent, and is
completed when the counters reach the target.

## Main definitions

* `Campaign`: A campaign.
* `Campaign.create`: A new campaign.
* `Campaign.startSending`, `Campaign.release`: The way into the sending state
  and back.
* `Campaign.recordOutcome`: A campaign after an outcome.
* `Campaign.completeIfExhausted`: The way into the completed state.
* `Campaign.deliveryRate`: The share of sent messages in percent.
-/

namespace Outreach

/-- What an outcome changed. -/
structure CounterUpdate where
  counted : Bool
  completed : Bool
  deriving DecidableEq, Inhabited

/-- A campaign. -/
structure Campaign where
  id : Uuid
  name : Text
  message : Text
  rules : List Rule
  audienceSize : Int
  status : CampaignStatus
  sentCount : Int
  failedCount : Int
  createdAt : Timestamp
  updatedAt : Timestamp
  deriving DecidableEq, Inhabited

namespace Campaign

/-- Check what a new campaign is made of: name, message, size. -/
def check (name message : Text) (audienceSize : Int) : Except Fault Unit := do
  if name.isBlankText then throw .emptyCampaignName
  if message.isBlankText then throw .emptyCampaignMessage
  if audienceSize < 0 then throw .negativeAudience

/-- A new campaign. -/
def create (id : Uuid) (name message : Text) (rules : List Rule) (audienceSize : Int)
    (now : Timestamp) : Campaign :=
  ⟨id, name.strip, message, rules, audienceSize, .pending, 0, 0, now, now⟩

/-- The recipients with a known outcome. -/
def outcomeCount (c : Campaign) : Int :=
  c.sentCount + c.failedCount

/-- Whether every recipient of the audience has an outcome. -/
def isExhausted (c : Campaign) : Bool :=
  decide (c.audienceSize ≤ c.outcomeCount)

/-- The share of sent messages among the known outcomes, in percent. -/
def deliveryRate (c : Campaign) : Except Fault Double :=
  if c.outcomeCount = 0 then .ok Double.zero
  else
    match Double.ofQuotient? c.sentCount c.outcomeCount with
    | some share => .ok (share.mul (Double.ofInt 100))
    | none => .error .quotientRange

/-- A pending campaign as it is being sent. -/
def startSending (c : Campaign) (now : Timestamp) : Except Fault Campaign :=
  if c.status ≠ .pending then .error (.alreadyStarted c.id (some c.status))
  else .ok { c with status := .sending, updatedAt := now }

/-- A campaign that is being sent, put back because sending could not
    begin. -/
def release (c : Campaign) (now : Timestamp) : Except Fault Campaign :=
  if c.status ≠ .sending then .error (.wrongState .sending c.status)
  else if c.outcomeCount ≠ 0 then .error (.hasOutcomes c.id)
  else .ok { c with status := .pending, updatedAt := now }

/-- A campaign that is completed if it is being sent and exhausted, and whether
    that happened. -/
def completeIfExhausted (c : Campaign) (now : Timestamp) : Campaign × Bool :=
  if c.status = .sending ∧ c.isExhausted then
    ({ c with status := .completed, updatedAt := now }, true)
  else (c, false)

/-- A campaign with one more outcome in its counters. -/
def count (c : Campaign) (outcome : DeliveryStatus) (now : Timestamp) : Campaign :=
  match outcome with
  | .sent => { c with sentCount := c.sentCount + 1, updatedAt := now }
  | _ => { c with failedCount := c.failedCount + 1, updatedAt := now }

/-- A campaign after an outcome. It is counted only while the campaign is being
    sent and its audience is not exhausted. -/
def recordOutcome (c : Campaign) (outcome : DeliveryStatus) (now : Timestamp) :
    Except Fault (Campaign × CounterUpdate) :=
  if !outcome.isOutcome then .error (.notAnOutcome outcome.qualified)
  else if c.status ≠ .sending ∨ c.isExhausted then .ok (c, ⟨false, false⟩)
  else
    let (after, completed) := (c.count outcome now).completeIfExhausted now
    .ok (after, ⟨true, completed⟩)

/-- A campaign after an outcome given by its word. -/
def recordWord (c : Campaign) (word : Json) (now : Timestamp) :
    Except Fault (Campaign × CounterUpdate) :=
  match word with
  | .text t =>
    match t.string?.bind DeliveryStatus.ofText? with
    | some outcome => c.recordOutcome outcome now
    | none => .error (.notAnOutcome t)
  | _ => .error (.notAnOutcome word.shown)

/-- A campaign as a JSON object. -/
def toJson (c : Campaign) : Except Fault Json := do
  let rate ← c.deliveryRate
  return .record [("id", .string c.id.text), ("name", .text c.name),
    ("message", .text c.message), ("rules", .list (Rule.listToJson c.rules)),
    ("audience_size", .int c.audienceSize), ("sent_count", .int c.sentCount),
    ("failed_count", .int c.failedCount), ("status", .string c.status.text),
    ("delivery_rate", .double rate), ("created_at", .string c.createdAt.iso),
    ("updated_at", .string c.updatedAt.iso)]

end Campaign

end Outreach
