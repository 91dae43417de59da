import Outreach.Number.Total
import Outreach.Service.Campaigns
import Outreach.Vendor.Basic
import Outreach.Vendor.Schedule

/-!
# The Agenda

What goes on beside the caller: the sends of the simulated vendor and the
campaigns that are launched in the background. Everything that can go on
stands in one queue, and each item of it runs to its next rest. A rest is over
when nothing else can go on, in the order of due times; until then no time
passes.

A caller that waits stands in the queue as well. It goes on when a rest of its
own is over, or when it has learned of the end of every task it waits for;
a task's end is first noted where the task is kept and then by the caller.

## Main definitions

* `Task`: What goes on beside the caller.
* `Item`: What stands in the queue.
* `Agenda`: The queue, the rests, the tasks and the world they act in.
* `Agenda.perform`: An action of the caller.
* `Agenda.next`: The first item of the queue taken.
* `Agenda.run`: Items taken until the caller goes on.
* `Agenda.split`, `Agenda.partDone`: Several things that the caller does at
  once.
* `Agenda.launchCampaign`, `Agenda.awaitLaunches`, `Agenda.closeLaunches`:
  Launches in the background.
* `Agenda.drain`, `Agenda.closeVendor`, `Agenda.pause`: Waiting for the vendor
  and for time to pass.
-/

namespace Outreach

/-- What goes on beside the caller, by number. -/
inductive Task
  | send (k : Nat)
  | launch (k : Nat)
  deriving DecidableEq, Inhabited

/-- A campaign that is launched in the background. -/
structure Launch where
  campaign : Uuid
  /-- The log fields of the caller. -/
  fields : Log.Fields
  isCalledOff : Bool
  /-- How the launch ended: called off if there is no outcome. -/
  ended : Option (Option (Except Fault Unit))
  isRemoved : Bool
  deriving Inhabited

/-- What stands in the queue. -/
inductive Item
  /-- A task goes on. -/
  | resume (t : Task)
  /-- The rest of a task is over. -/
  | wake (t : Task)
  /-- The end of a task is noted where the task is kept. -/
  | noteEnd (t : Task)
  /-- The caller learns of the end of a task. -/
  | learn
  /-- The rest of the caller is over. -/
  | alarm
  /-- The caller goes on. -/
  | caller
  /-- A part of what the caller does at once is done. -/
  | part (k : Nat)
  deriving DecidableEq, Inhabited

/-- Everything that goes on. -/
structure Agenda (σ : Type) where
  /-- What the tasks act in. -/
  world : World σ
  vendor : Vendor
  /-- Whether messages are handed to the simulated vendor; otherwise they only
      gather at the sender. -/
  simulates : Bool
  launches : List Launch
  queue : List Item
  /-- The rests: when they are over, and what happens then. -/
  rests : Schedule Item
  /-- The time that has passed, in seconds. -/
  time : Double
  /-- The tasks whose end the caller is still to learn of. -/
  awaited : List Task
  /-- How many ends the caller is still to learn of. -/
  missing : Nat

namespace Agenda

variable {σ : Type}

/-- Nothing goes on. -/
def idle (world : World σ) (vendor : Vendor) (simulates : Bool) : Agenda σ :=
  ⟨world, vendor, simulates, [], [], [], Double.zero, [], 0⟩

/-- Put an item at the end of the queue. -/
def enqueue (a : Agenda σ) (item : Item) : Agenda σ :=
  { a with queue := a.queue ++ [item] }

/-- Let an item follow after a rest. Without a rest it stands in the queue at
    once, as `now`. -/
def after (a : Agenda σ) (seconds : Double) (item now : Item) : Agenda σ :=
  if seconds.le Double.zero then a.enqueue now
  else { a with rests := a.rests.insert ⟨a.time.add seconds, item⟩ }

/-- Hand the messages that have gathered at the sender to the vendor. -/
def collect (a : Agenda σ) : Agenda σ :=
  -- Nothing else can go on during an action, so what it handed over starts afterwards.
  if a.simulates then
    let first := a.vendor.sends.length
    let handed := a.world.sender.handed
    { a with
      world := { a.world with sender := { a.world.sender with handed := [] } }
      vendor := handed.foldl Vendor.accept a.vendor
      queue := a.queue ++ (List.range handed.length).map fun i => .resume (.send (first + i)) }
  else a

/-- Perform an action of the caller. -/
def perform {α : Type} (x : Action σ α) (a : Agenda σ) : Except Fault α × Agenda σ :=
  match x a.world with
  | .ok r w => (.ok r, { a with world := w }.collect)
  | .error f w => (.error f, { a with world := w }.collect)

/-- Perform an action that does not fail. -/
def act (a : Agenda σ) (x : Action σ Unit) : Agenda σ :=
  (a.perform x).2

/-- A task has come to its end. -/
def leave (a : Agenda σ) (t : Task) : Agenda σ :=
  -- The task is noted first: what keeps it has asked for its end before the caller.
  let noted := a.enqueue (.noteEnd t)
  if a.awaited.contains t then
    { noted.enqueue .learn with awaited := a.awaited.erase t }
  else noted

/-- A send goes on to its next rest or to its end. -/
def resumeSend (sink : Receipt → Action σ Unit) (a : Agenda σ) (k : Nat) : Agenda σ :=
  match a.vendor.sends[k]? with
  | none => a
  | some s =>
    if s.isEnded then a
    -- A send can only be called off at a rest, so this is where it shows.
    else if s.isCalledOff then
      { a with vendor := a.vendor.finish k .calledOff }.leave (.send k)
    else
      match s.stage with
      | .waiting =>
        let (rest, v) := a.vendor.start k
        { a with vendor := v }.after rest (.wake (.send k)) (.resume (.send k))
      | .dispatching =>
        let (rest, v) := a.vendor.decide k
        { a with vendor := v }.after rest (.wake (.send k)) (.resume (.send k))
      | .responding outcome =>
        -- A receipt counts as reported whether or not its delivery succeeds.
        let a := { a with vendor := a.vendor.report ⟨s.recordId, outcome⟩ }
        match a.perform (s.deliver sink outcome) with
        | (.ok how, a) => { a with vendor := a.vendor.finish k how }.leave (.send k)
        | (.error _, a) => { a with vendor := a.vendor.finish k .undelivered }.leave (.send k)
      | .ended _ => a

/-- Change a launch. -/
def modifyLaunch (a : Agenda σ) (k : Nat) (f : Launch → Launch) : Agenda σ :=
  { a with launches := a.launches.modify k f }

/-- A launch runs to its end. -/
def resumeLaunch [Repository σ] (a : Agenda σ) (k : Nat) : Agenda σ :=
  match a.launches[k]? with
  | none => a
  | some l =>
    if l.ended.isSome then a
    else if l.isCalledOff then
      (a.modifyLaunch k fun l => { l with ended := some none }).leave (.launch k)
    else
      -- A launch has no rests of its own: it is carried out in one go.
      let (outcome, a) := a.perform (Action.within l.fields (Campaigns.launch l.campaign))
      (a.modifyLaunch k fun l => { l with ended := some (some (outcome.map fun _ => ())) }).leave
        (.launch k)

/-- The end of a launch is noted; a failure leaves a line in the log. -/
def noteLaunch (a : Agenda σ) (k : Nat) : Agenda σ :=
  match a.launches[k]? with
  | none => a
  | some l =>
    let a := a.modifyLaunch k fun l => { l with isRemoved := true }
    match l.ended with
    -- Being called off is no failure and leaves no line.
    | some (some (.error f)) =>
      a.act <| Action.within l.fields <| Action.note .error .campaigns
        ("Background dispatch failed: " ++ f.kind ++ ": " ++ f.message)
    | _ => a

/-- The caller learns of an end; with the last one it goes on. -/
def learn (a : Agenda σ) : Agenda σ :=
  let missing := a.missing - 1
  let a := { a with missing := missing }
  if missing = 0 then a.enqueue .caller else a

/-- An item is carried out. -/
def carryOut [Repository σ] (sink : Receipt → Action σ Unit) (a : Agenda σ) : Item → Agenda σ
  | .resume (.send k) => a.resumeSend sink k
  | .resume (.launch k) => a.resumeLaunch k
  | .wake t => a.enqueue (.resume t)
  | .noteEnd (.send k) => { a with vendor := a.vendor.remove k }
  | .noteEnd (.launch k) => a.noteLaunch k
  | .learn => a.learn
  | .alarm => a.enqueue .caller
  | .caller => a
  | .part _ => a

/-- Rests that are over within this time of each other are over at once, in
    seconds. -/
def resolution : Double := Double.ofRatio false 1 1000000000

/-- Let the time pass until the first rest is over. -/
def passTime (a : Agenda σ) : Agenda σ :=
  match a.rests.next? with
  | none => a
  | some (first, _) =>
    -- The clock shows the due time of the first rest; the others end with it.
    let (ending, rests) := a.rests.dueBefore (first.due.add resolution)
    { a with
      time := first.due
      queue := a.queue ++ ending.map Entry.item
      rests := rests }

/-- The agenda with something in its queue, if there is anything left to
    do. -/
def advance (a : Agenda σ) : Agenda σ :=
  if a.queue.isEmpty then a.passTime else a

/-- The first item of the queue taken. -/
def next [Repository σ] (sink : Receipt → Action σ Unit) (a : Agenda σ) :
    Option (Item × Agenda σ) :=
  let a := a.advance
  match a.queue with
  | [] => none
  | item :: rest => some (item, { a with queue := rest }.carryOut sink item)

/-- How many launches have not run. -/
def launchesLeft (a : Agenda σ) : Nat :=
  a.launches.countP fun l => l.ended.isNone

/-- A bound for the items that a stage of a send still gives rise to. -/
def SendStage.work : SendStage → Nat
  | .waiting => 9
  | .dispatching => 6
  | .responding _ => 3
  | .ended _ => 0

/-- A bound for the items that an item gives rise to, itself included. -/
def Item.work : Item → Nat
  | .wake _ => 2
  | .learn => 2
  | .alarm => 2
  | _ => 1

/-- A bound for the items that are still to be taken, apart from launches. -/
def workLeft (a : Agenda σ) : Nat :=
  total (a.vendor.sends.map fun s => SendStage.work s.stage) + total (a.queue.map Item.work) +
    total (a.rests.map fun r => Item.work r.item)

/-- Why taking items stops. -/
inductive Signal
  /-- The caller goes on. -/
  | caller
  /-- A part of what the caller does at once is to be done. -/
  | part (k : Nat)
  /-- Nothing is left to do. -/
  | idle
  deriving DecidableEq, Inhabited

/-- Take items until the caller goes on. Every item leaves less to do; the check
    that it does cannot fail and shows that this comes to an end. -/
def run [Repository σ] (sink : Receipt → Action σ Unit) (a : Agenda σ) : Signal × Agenda σ :=
  match a.next sink with
  | none => (.idle, a)
  | some (.caller, b) => (.caller, b)
  | some (.part k, b) => (.part k, b)
  | some (_, b) =>
    if b.launchesLeft < a.launchesLeft ∨
        (b.launchesLeft = a.launchesLeft ∧ b.workLeft < a.workLeft) then
      b.run sink
    else (.idle, b)
termination_by (a.launchesLeft, a.workLeft)
decreasing_by
  rename_i h
  rcases h with h | h
  · exact Prod.Lex.left _ _ h
  · rw [h.1]
    exact Prod.Lex.right _ h.2

/-- The caller does some things at once, each of which stands in the queue as a
    part. -/
def split (a : Agenda σ) (parts : Nat) : Agenda σ :=
  { a with queue := a.queue ++ (List.range parts).map Item.part, missing := parts }

/-- A part of what the caller does at once is done. -/
def partDone (a : Agenda σ) : Agenda σ :=
  a.enqueue .learn

/-- Whether a task has come to its end. -/
def isEnded (a : Agenda σ) : Task → Bool
  | .send k => a.vendor.sends[k]?.all Send.isEnded
  | .launch k => a.launches[k]?.all fun l => l.ended.isSome

/-- The caller waits for the ends of tasks. -/
def await [Repository σ] (sink : Receipt → Action σ Unit) (a : Agenda σ) (ts : List Task) :
    Agenda σ :=
  if ts.isEmpty then a
  else
    -- Ends that lie in the past are learned of in order, before any that are to come.
    let ended := ts.filter a.isEnded
    let waiting := { a with
      queue := a.queue ++ ended.map (fun _ => Item.learn)
      awaited := ts.filter (fun t => !a.isEnded t)
      missing := ts.length }
    (waiting.run sink).2

/-- The caller rests for some seconds; without a rest it stands at the end of
    the queue. -/
def pause [Repository σ] (sink : Receipt → Action σ Unit) (a : Agenda σ) (seconds : Double) :
    Agenda σ :=
  ((a.after seconds .alarm .caller).run sink).2

/-- Launch a campaign in the background. -/
def launchCampaign (a : Agenda σ) (id : Uuid) (fields : Log.Fields) : Agenda σ :=
  let launch : Launch := ⟨id, fields, false, none, false⟩
  let more := { a with launches := a.launches ++ [launch] }
  more.enqueue (.resume (.launch a.launches.length))

/-- The launches under way. -/
def openLaunches (a : Agenda σ) : List Task :=
  (a.launches.zipIdx.filter fun l => !l.1.isRemoved).map fun l => .launch l.2

/-- Wait for the launches under way. -/
def awaitLaunches [Repository σ] (sink : Receipt → Action σ Unit) (a : Agenda σ) : Agenda σ :=
  a.await sink a.openLaunches

/-- Call the launches under way off and wait for them. -/
def closeLaunches [Repository σ] (sink : Receipt → Action σ Unit) (a : Agenda σ) : Agenda σ :=
  let launches := a.launches.map fun l => { l with isCalledOff := true }
  awaitLaunches sink { a with launches := launches }

/-- The sends in flight. -/
def openSends (a : Agenda σ) : List Task :=
  a.vendor.pending.map Task.send

/-- Wait until no send is in flight. Every round ends at least one send; a round
    that ends none is the last one. -/
def drain [Repository σ] (sink : Receipt → Action σ Unit) (a : Agenda σ) : Agenda σ :=
  if a.vendor.inFlight = 0 then a
  else
    let b := a.await sink a.openSends
    if b.launchesLeft < a.launchesLeft ∨
        (b.launchesLeft = a.launchesLeft ∧ b.workLeft < a.workLeft) then
      b.drain sink
    else b
termination_by (a.launchesLeft, a.workLeft)
decreasing_by
  rename_i h
  rcases h with h | h
  · exact Prod.Lex.left _ _ h
  · rw [h.1]
    exact Prod.Lex.right _ h.2

/-- Call a send off. A rest of it is over at once. -/
def callOffSend (a : Agenda σ) (k : Nat) : Agenda σ :=
  let t := Task.send k
  let a := { a with vendor := a.vendor.callOff k }
  -- A send that is about to go on finds out by itself.
  if a.isEnded t || a.queue.contains (.resume t) then a
  else
    let awake := { a with
      queue := a.queue.filter (fun item => item != Item.wake t)
      rests := Schedule.without (Item.wake t) a.rests }
    awake.enqueue (.resume t)

/-- Call the sends in flight off and wait for them. -/
def closeVendor [Repository σ] (sink : Receipt → Action σ Unit) (a : Agenda σ) : Agenda σ :=
  let ts := a.openSends
  let b := (a.vendor.pending.foldl callOffSend a).await sink ts
  b.act <| Action.note .info .vendor
    ("Simulated vendor closed (" ++ toString ts.length ++ " sends cancelled)")

end Agenda

end Outreach
