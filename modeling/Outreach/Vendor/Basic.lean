import Outreach.Number.Arithmetic
import Outreach.World

/-!
# The Simulated Vendor

A vendor that sends nothing. Every message that is handed to it becomes a send
of its own: it rests for a random time, draws an outcome, rests again and
reports the outcome as a receipt. Between its steps, other sends take theirs.

A send may be called off before it reports. It counts as in flight until its
removal, which comes after its end.

## Main definitions

* `Vendor.Profile`: Success rate and ranges of the two rests.
* `Send`: One message on its way.
* `Vendor`: The vendor.
* `Vendor.accept`: A message is handed over.
* `Vendor.start`, `Vendor.decide`, `Vendor.report`, `Vendor.finish`,
  `Vendor.callOff`, `Vendor.remove`: The steps of a send.
* `Vendor.inFlight`: The sends that are not removed.
-/

namespace Outreach

/-- How a send ended. -/
inductive Ending
  | delivered
  /-- The receipt could not be delivered. -/
  | undelivered
  | calledOff
  deriving DecidableEq, Inhabited

/-- How far a send has come. -/
inductive SendStage
  | waiting
  | dispatching
  /-- The outcome is drawn but not reported. -/
  | responding (outcome : DeliveryStatus)
  | ended (how : Ending)
  deriving DecidableEq, Inhabited

/-- One message on its way. -/
structure Send where
  recordId : Uuid
  /-- The log fields of the call that handed the message over. -/
  fields : Log.Fields
  stage : SendStage
  /-- Whether the send is to be called off at its next step. -/
  isCalledOff : Bool
  isRemoved : Bool
  deriving Inhabited

namespace Send

/-- Whether a send has come to its end. -/
def isEnded (s : Send) : Bool :=
  match s.stage with
  | .ended _ => true
  | _ => false

end Send

/-- How a vendor behaves: the probability of success, and the least and the
    greatest length of the rests before dispatch and before the response, in
    seconds. -/
structure Vendor.Profile where
  successRate : Double
  dispatch : Double × Double
  response : Double × Double
  deriving DecidableEq, Inhabited

/-- The simulated vendor. -/
structure Vendor where
  profile : Vendor.Profile
  /-- The source of random numbers, by number of the draw. -/
  random : Nat → Double
  /-- How many random numbers were drawn. -/
  drawn : Nat
  /-- Every send, in order of handing over. -/
  sends : List Send
  /-- The receipts that were reported, in order. -/
  reports : List Receipt

namespace Vendor

/-- A vendor without sends. -/
def idle (profile : Profile) (random : Nat → Double) : Vendor :=
  ⟨profile, random, 0, [], []⟩

/-- Draw a random number. -/
def draw (v : Vendor) : Double × Vendor :=
  (v.random v.drawn, { v with drawn := v.drawn + 1 })

/-- Draw a number from a range. -/
def drawFrom (v : Vendor) (range : Double × Double) : Double × Vendor :=
  let (r, v) := v.draw
  (range.1.add ((range.2.sub range.1).mul r), v)

/-- The outcome that a random number means. -/
def outcomeOf (profile : Profile) (r : Double) : DeliveryStatus :=
  if r.lt profile.successRate then .sent else .failed

/-- A message is handed over. -/
def accept (v : Vendor) (h : Handover) : Vendor :=
  { v with sends := v.sends ++ [⟨h.record.id, h.fields, .waiting, false, false⟩] }

/-- Change a send. -/
def modify (v : Vendor) (k : Nat) (f : Send → Send) : Vendor :=
  { v with sends := v.sends.modify k f }

/-- Put a send into a stage. -/
def enter (v : Vendor) (k : Nat) (stage : SendStage) : Vendor :=
  v.modify k fun s => { s with stage := stage }

/-- A send begins: the length of its first rest. -/
def start (v : Vendor) (k : Nat) : Double × Vendor :=
  let (rest, v) := v.drawFrom v.profile.dispatch
  (rest, v.enter k .dispatching)

/-- A send draws its outcome: the length of its second rest. -/
def decide (v : Vendor) (k : Nat) : Double × Vendor :=
  let (r, v) := v.draw
  let (rest, v) := v.drawFrom v.profile.response
  -- The outcome is fixed by the first of the two draws, before the rest is over.
  (rest, v.enter k (.responding (outcomeOf v.profile r)))

/-- A receipt is reported. -/
def report (v : Vendor) (receipt : Receipt) : Vendor :=
  { v with reports := v.reports ++ [receipt] }

/-- A send ends. -/
def finish (v : Vendor) (k : Nat) (how : Ending) : Vendor :=
  v.enter k (.ended how)

/-- A send is to be called off at its next step. -/
def callOff (v : Vendor) (k : Nat) : Vendor :=
  v.modify k fun s => { s with isCalledOff := true }

/-- A send is no longer in flight. -/
def remove (v : Vendor) (k : Nat) : Vendor :=
  v.modify k fun s => { s with isRemoved := true }

/-- The numbers of the sends in flight. -/
def pending (v : Vendor) : List Nat :=
  (v.sends.zipIdx.filter fun s => !s.1.isRemoved).map Prod.snd

/-- How many sends are in flight. -/
def inFlight (v : Vendor) : Nat :=
  v.sends.countP fun s => !s.isRemoved

end Vendor

/-- Report the outcome of a send to a sink; whether that succeeded. -/
def Send.deliver {σ : Type} (sink : Receipt → Action σ Unit) (s : Send)
    (outcome : DeliveryStatus) : Action σ Ending :=
  Action.within s.fields do
    Action.note .debug .vendor
      ("Simulated " ++ outcome.text ++ " for record " ++ s.recordId.text)
    -- A send does not try again: a receipt that is not delivered is lost.
    match ← (sink ⟨s.recordId, outcome⟩).capture with
    | .ok _ => return .delivered
    | .error f =>
      Action.note .error .vendor
        ("Receipt for record " ++ s.recordId.text ++ " was not delivered: " ++ f.message)
      return .undelivered

end Outreach
