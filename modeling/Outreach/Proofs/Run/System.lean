import Outreach.Proofs.Run.Stage
import Outreach.Store.Memory

/-!
# Runs of Calls Side by Side

Any number of calls over one store in memory, in any order of their steps. A
run is a list of moves: a new call is issued, one of the calls takes its next
step, or the conditions around them turn. A call reaches the store at most once
in a step, so every interleaving of the repository calls of any calls is a run.

Everything that a step of a call did stays in the list of events, so that what
happened over a whole run can be read off its last state.

## Main definitions

* `Run.Request`, `Run.Task`: A call as it is asked for, and as it goes on.
* `Run.Task.advance`: The next step of a call.
* `Run.Event`: One step of one call.
* `Run.Event.created?`, `Run.Event.stored?`, `Run.Event.handed?`,
  `Run.Event.closed?`, `Run.Event.counted?`, `Run.Event.answered?`: What a
  step did.
* `Run.Conditions`: What lies outside of the calls.
* `Run.System`, `Run.System.move`, `Run.System.run`: All calls together, and
  their runs.
* `World.Blank`, `World.DistinctIds`: Where runs start, and what they need of
  the identifiers.
* `World.blank`: A world to start from.
* `Run.sample`: A run as an example.
-/

namespace Outreach

namespace Run

/-- A call as it is asked for. -/
inductive Request
  | customer (args : NewCustomer)
  | order (args : NewOrder)
  | campaign (args : NewCampaign)
  | dispatch (args : NewDispatch)
  | receipt (args : Receipt)

/-- A call as it goes on. -/
inductive Task
  | customer (args : NewCustomer) (progress : Progress Customers.Stage Customer)
  | order (args : NewOrder) (progress : Progress Orders.Stage Order)
  | campaign (args : NewCampaign) (progress : Progress Campaigns.Stage Campaign)
  | dispatch (args : NewDispatch) (progress : Progress Dispatch.Stage (List DeliveryRecord))
  | receipt (args : Receipt) (progress : Progress Receipts.Stage ReceiptResult)

/-- A call at its first stage. -/
def Request.task : Request → Task
  | .customer args => .customer args (.underway .drafting)
  | .order args => .order args (.underway .drafting)
  | .campaign args => .campaign args (.underway .compiling)
  | .dispatch args => .dispatch args (.underway .compiling)
  | .receipt args => .receipt args (.underway .checking)

namespace Task

/-- Whether a call has not ended. -/
def isUnderway : Task → Bool
  | customer _ p => p.isUnderway
  | order _ p => p.isUnderway
  | campaign _ p => p.isUnderway
  | dispatch _ p => p.isUnderway
  | receipt _ p => p.isUnderway

/-- The next step of a call. A call that has ended stays as it is. -/
def advance {σ : Type} [Repository σ] : Task → World σ → Task × World σ
  | customer args (.underway s), w =>
    let (p, v) := Progress.after (Customers.advance args s) w
    (customer args p, v)
  | order args (.underway s), w =>
    let (p, v) := Progress.after (Orders.advance args s) w
    (order args p, v)
  | campaign args (.underway s), w =>
    let (p, v) := Progress.after (Campaigns.advance args s) w
    (campaign args p, v)
  | dispatch args (.underway s), w =>
    let (p, v) := Progress.after (Dispatch.advance args s) w
    (dispatch args p, v)
  | receipt args (.underway s), w =>
    let (p, v) := Progress.after (Receipts.advance args s) w
    (receipt args p, v)
  | t, w => (t, w)

end Task

/-- One step of one call: its number among the calls of the run, and the call
    before and after the step. -/
structure Event where
  number : Nat
  before : Task
  after : Task

namespace Event

/-- The campaign that was stored by the call that creates it. -/
def created? : Event → Option Campaign
  | ⟨_, .campaign _ (.underway (.storing c _)), .campaign _ (.returned _)⟩ => some c
  | _ => none

/-- The campaign of a batch of records that was stored, and the batch. -/
def stored? : Event → Option (Uuid × List DeliveryRecord)
  | ⟨_, .dispatch args (.underway (.storing _ _)), .dispatch _ (.underway (.handing records _))⟩ =>
    some (args.campaignId, records)
  | _ => none

/-- The record that was handed to the sender. -/
def handed? : Event → Option DeliveryRecord
  | ⟨_, .dispatch _ (.underway (.handing _ ((record, _) :: _))), .dispatch _ (.underway _)⟩ =>
    some record
  | _ => none

/-- The campaign that was looked at when all messages had been handed over, and
    whether that completed it. -/
def closed? : Event → Option (Uuid × Bool)
  | ⟨_, .dispatch args (.underway (.handing _ [])),
      .dispatch _ (.underway (.closing _ completed))⟩ =>
    some (args.campaignId, completed)
  | _ => none

/-- The record whose receipt, having settled it, went on to the counters of its
    campaign. -/
def counted? : Event → Option Uuid
  | ⟨_, .receipt args (.underway (.counting _)), _⟩ => some args.recordId
  | _ => none

/-- The result with which a receipt ended. -/
def answered? : Event → Option ReceiptResult
  | ⟨_, .receipt _ (.underway _), .receipt _ (.returned result)⟩ => some result
  | _ => none

/-- Whether a step reports that a campaign is completed: as the result of a
    receipt, or at the end of its dispatch. -/
def reports (id : Uuid) (e : Event) : Bool :=
  (e.answered?.any fun result => decide (result.campaignId = id) && result.completed) ||
    e.closed?.any fun c => decide (c.1 = id) && c.2

variable {n : Nat} {args : NewDispatch} {s : Dispatch.Stage} {f : Fault}

/-- A dispatch that fails in a step has done nothing in it. -/
theorem stored?_raised :
    stored? ⟨n, .dispatch args (.underway s), .dispatch args (.raised f)⟩ = none := by
  cases s <;> rfl

theorem handed?_raised :
    handed? ⟨n, .dispatch args (.underway s), .dispatch args (.raised f)⟩ = none := by
  cases s with
  | handing records rest => cases rest <;> rfl
  | _ => rfl

theorem closed?_raised :
    closed? ⟨n, .dispatch args (.underway s), .dispatch args (.raised f)⟩ = none := by
  cases s with
  | handing records rest => cases rest <;> rfl
  | _ => rfl

theorem created?_raised {args : NewCampaign} {s : Campaigns.Stage} :
    created? ⟨n, .campaign args (.underway s), .campaign args (.raised f)⟩ = none := by
  cases s <;> rfl

end Event

/-- What lies outside of the calls: the time, whether the store answers and
    takes batches, whether the sender takes messages. -/
structure Conditions where
  clock : Timestamp
  available : Bool
  batchFault : Option Text
  bound : Bool

/-- A world under some conditions. -/
def Conditions.over (c : Conditions) (w : World Memory) : World Memory :=
  { w with
    clock := c.clock
    store := { w.store with available := c.available, batchFault := c.batchFault }
    sender := { w.sender with bound := c.bound } }

/-- Calls that go on side by side. -/
structure System where
  world : World Memory
  /-- The calls, numbered by their order here. -/
  tasks : List Task
  /-- What the calls did, in order. -/
  events : List Event

/-- A move of a run. -/
inductive Move
  | issue (r : Request)
  | advance (number : Nat)
  | turn (c : Conditions)

namespace System

/-- No call was issued yet. -/
def start (w : World Memory) : System := ⟨w, [], []⟩

/-- The call with a number takes its next step. -/
def step (s : System) (number : Nat) (t : Task) : System :=
  let (after, world) := t.advance s.world
  ⟨world, s.tasks.set number after, s.events ++ [⟨number, t, after⟩]⟩

/-- The system after a move. There is nothing to advance under a number that no
    call has, or whose call has ended. -/
def move (s : System) : Move → System
  | .issue r => { s with tasks := s.tasks ++ [r.task] }
  | .turn c => { s with world := c.over s.world }
  | .advance number =>
    match s.tasks[number]? with
    | none => s
    | some t => if t.isUnderway then s.step number t else s

/-- The system after some moves. -/
def run (s : System) (moves : List Move) : System :=
  moves.foldl move s

/-- The stored campaigns. -/
def campaigns (s : System) : List Campaign := s.world.store.tables.campaigns

/-- The stored delivery records. -/
def records (s : System) : List DeliveryRecord := s.world.store.tables.records

/-- The campaign with an identifier. -/
def campaign? (s : System) (id : Uuid) : Option Campaign :=
  lookUp Campaign.id id s.campaigns

/-- The delivery records of a campaign. -/
def recordsOf (s : System) (id : Uuid) : List DeliveryRecord :=
  s.records.filter fun r => decide (r.campaignId = id)

/-- The records whose receipt has gone on to the counters of their campaign. -/
def counted (s : System) : List Uuid := s.events.filterMap Event.counted?

/-- What was handed to the sender. -/
def handed (s : System) : List Handover := s.world.sender.handed

end System

end Run

/-- A world in which nothing was stored and nothing handed over. -/
structure World.Blank (w : World Memory) : Prop where
  tables : w.store.tables = Tables.empty
  handed : w.sender.handed = []

/-- No identifier was drawn twice. -/
def World.DistinctIds {σ : Type} (w : World σ) : Prop :=
  ∀ i < w.drawn, ∀ j < w.drawn, w.supply i = w.supply j → i = j

instance {σ : Type} (w : World σ) : Decidable w.DistinctIds :=
  inferInstanceAs (Decidable (∀ i < w.drawn, ∀ j < w.drawn, w.supply i = w.supply j → i = j))

/-- A blank world at some time, whose identifiers are the numbers in order. -/
def World.blank (clock : Timestamp) : World Memory :=
  ⟨Memory.empty, clock, Uuid.ofNat, 0, Metrics.empty, [], [], ⟨"blank", true, []⟩⟩

theorem World.blank_blank (clock : Timestamp) : (World.blank clock).Blank := ⟨rfl, rfl⟩

namespace Run

/-- The opening of a run: a customer is taken in, and a campaign created. -/
def opening : List Move :=
  [.issue (.customer ⟨"Ann", "ann@example.org", .null, Double.zero, 0, none⟩),
    .advance 0, .advance 0, .advance 0,
    .issue (.campaign ⟨"Spring", "Hello", []⟩),
    .advance 1, .advance 1, .advance 1, .advance 1]

/-- A run: after the opening the campaign is started twice, and the message that
    goes out is reported as sent, and then once more as failed. -/
def sample : List Move :=
  let start := Move.issue (.dispatch ⟨Uuid.ofNat 1, [], "Hello", none⟩)
  opening ++ [start, start, .advance 2, .advance 3, .advance 2, .advance 3, .advance 3,
    .advance 2, .advance 2, .advance 2,
    .issue (.receipt ⟨Uuid.ofNat 2, .sent⟩), .issue (.receipt ⟨Uuid.ofNat 2, .failed⟩),
    .advance 4, .advance 5, .advance 4, .advance 5, .advance 4, .advance 2, .advance 5,
    .advance 4, .advance 2, .advance 2]

/-- The world in which the sample run starts. -/
def sampleWorld : World Memory := World.blank ⟨⟨2024, 1, 1⟩, 0, some 0⟩

end Run

end Outreach
