import Outreach.Campaign.Basic
import Outreach.Customer.Basic
import Outreach.Delivery.Record
import Outreach.Log.Line
import Outreach.Metrics

/-!
# The World of a Call

What a call of a service reads and changes: the store, the clock, the supply
of identifiers, the metrics, the log and the sender that messages are handed
to. The store is a parameter, so that services are written once for every
kind of store.

An action may fail, and what it changed before it failed stays changed.

## Main definitions

* `Handover`: A message as it was handed to a sender.
* `Sender`: What messages are handed to.
* `World`: Everything that a call reads and changes.
* `World.time`: The time on the clock.
* `Action`: A step of a call.
* `Action.now`, `Action.freshId`, `Action.note`, `Action.measure`,
  `Action.within`: The clock, identifiers, log lines, metrics and log fields.
* `Action.send`: Handing a message over.
-/

namespace Outreach

/-- A message as it was handed to a sender. -/
structure Handover where
  record : DeliveryRecord
  recipient : Customer
  /-- The log fields of the call that handed it over. -/
  fields : Log.Fields
  deriving Inhabited

/-- What messages are handed to. -/
structure Sender where
  name : String
  /-- Whether receipts have somewhere to go. A sender without that refuses
      messages. -/
  bound : Bool
  /-- The messages handed over, in order. -/
  handed : List Handover
  deriving Inhabited

/-- Everything that a call reads and changes. -/
structure World (σ : Type) where
  store : σ
  /-- What the clock shows, in whatever zone it stands. -/
  clock : Timestamp
  /-- The supply of identifiers, by number. -/
  supply : Nat → Uuid
  /-- How many identifiers were taken from the supply. -/
  drawn : Nat
  metrics : Metrics
  /-- The fields that log lines carry. -/
  fields : Log.Fields
  /-- The log, newest line first. -/
  log : List Log.Line
  sender : Sender

/-- The time on the clock, in universal time as far as it has one. -/
def World.time {σ : Type} (w : World σ) : Timestamp :=
  w.clock.toUtc?.getD w.clock

/-- A step of a call. -/
abbrev Action (σ : Type) := EStateM Fault (World σ)

namespace Action

variable {σ α : Type}

/-- The next identifier. -/
def freshId : Action σ Uuid :=
  modifyGet fun w => (w.supply w.drawn, { w with drawn := w.drawn + 1 })

/-- Write a line to the log. -/
def note (level : Log.Level) (channel : Log.Channel) (message : Text) : Action σ Unit :=
  modify fun w => { w with log := ⟨level, channel, message, w.fields⟩ :: w.log }

/-- Change the metrics. -/
def measure (f : Metrics → Metrics) : Action σ Unit :=
  modify fun w => { w with metrics := f w.metrics }

/-- An outcome that was computed elsewhere. -/
def ofExcept : Except Fault α → Action σ α
  | .ok a => pure a
  | .error f => throw f

/-- The time on the clock, in universal time. -/
def now : Action σ Timestamp := do
  ofExcept (inUtc (← get).clock)

/-- The outcome of an action that may fail, without failing itself. -/
def capture (x : Action σ α) : Action σ (Except Fault α) := fun w =>
  match x w with
  | .ok a w => .ok (.ok a) w
  | .error f w => .ok (.error f) w

/-- Run an action whose log lines carry further fields. -/
def within (fields : Log.Fields) (x : Action σ α) : Action σ α := fun w =>
  match x { w with fields := w.fields.merge fields } with
  | .ok a v => .ok a { v with fields := w.fields }
  | .error f v => .error f { v with fields := w.fields }

/-- Hand a message over. -/
def send (record : DeliveryRecord) (customer : Customer) : Action σ Unit := do
  let w ← get
  if w.sender.bound then
    let handed := w.sender.handed ++ [⟨record, customer, w.fields⟩]
    set { w with sender := { w.sender with handed := handed } }
  else throw .noSink

end Action

end Outreach
