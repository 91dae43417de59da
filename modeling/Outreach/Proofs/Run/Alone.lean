import Outreach.Proofs.Run.System
import Outreach.Proofs.Store.Memory

/-!
# Calls on Their Own

A call that takes its steps one after the other, with no other call in between,
ends as the whole call does, in the same world. The stages of a call thus cut it
into pieces and change nothing about it, and calls that are made one after the
other are one of the runs of calls side by side.

For each stage of a call, `rest` is what the call has still to do. One step and
the rest from the next stage on are the rest from this stage on, and no call has
infinitely many stages.

## Main definitions

* `Progress.runFor`: Taking a number of steps.
* `Progress.resume`: What a call has still to do, by its progress.
* `Progress.Completes`: Some number of steps brings a call to its end.
* `Customers.rest`, `Orders.rest`, `Campaigns.rest`, `Dispatch.rest`,
  `Receipts.rest`: The rest of each call.
* `Run.Request.serve`: A call as a whole.

## Theorems

* `Progress.completes_of_step`: One step and the rest are the whole rest.
* `Run.System.run_alone`: A call on its own is served as a whole.
-/

namespace Outreach

namespace Progress

variable {σ S α : Type}

/-- Take a number of steps, as long as the call has not ended. -/
def runFor (step : S → Action σ (Progress S α)) :
    Nat → Progress S α → World σ → Progress S α × World σ
  | n + 1, .underway s, w =>
    let (p, v) := after (step s) w
    runFor step n p v
  | _, p, w => (p, w)

/-- What a call has still to do, by its progress. -/
def resume (rest : S → Action σ α) : Progress S α → Action σ α
  | .underway s => rest s
  | .returned a => pure a
  | .raised f => throw f

/-- How a call ends that does an action as a whole. -/
def ended (x : Action σ α) (w : World σ) : Progress S α × World σ :=
  after (do return .returned (← x)) w

/-- Some number of steps brings a call to the end that its rest has. -/
def Completes (step : S → Action σ (Progress S α)) (rest : S → Action σ α)
    (p : Progress S α) (w : World σ) : Prop :=
  ∃ n, runFor step n p w = ended (resume rest p) w

variable {step : S → Action σ (Progress S α)} {rest : S → Action σ α} {w : World σ}

theorem completes_returned (a : α) : Completes step rest (.returned a) w := ⟨0, rfl⟩

theorem ended_bind (x : Action σ (Progress S α)) :
    ended (x >>= resume rest) w =
      match x w with
      | .ok p v => (ended (resume rest p) v : Progress S α × World σ)
      | .error f v => (.raised f, v) := by
  change after (EStateM.bind (EStateM.bind x (resume rest)) _) w = _
  unfold after EStateM.bind
  cases x w <;> rfl

/-- One step and the rest from there on are the whole rest. -/
theorem completes_of_step {s : S} (heq : rest s = step s >>= resume rest)
    (h : Action.Ends (step s) w (Completes step rest) fun _ _ => True) :
    Completes step rest (.underway s) w := by
  have hend : ended (step s >>= resume rest) w = _ := ended_bind (step s)
  rw [← heq] at hend
  unfold Action.Ends at h
  cases hs : step s w with
  | ok p v =>
      rw [hs] at h hend
      rcases h with ⟨n, hn⟩
      refine ⟨n + 1, ?_⟩
      rw [runFor, after, hs, resume]
      exact hn.trans hend.symm
  | error f v =>
      rw [hs] at hend
      refine ⟨1, ?_⟩
      rw [runFor, after, hs, resume]
      exact hend.symm

/-- The same for a step that begins with something that may do anything. -/
theorem completes_of_bind {β : Type} {s : S} {x : Action σ β} {k : β → Action σ (Progress S α)}
    (hstep : step s = x >>= k) (heq : rest s = step s >>= resume rest)
    (h : ∀ b v, Action.Ends (k b) v (Completes step rest) fun _ _ => True) :
    Completes step rest (.underway s) w := by
  refine completes_of_step heq ?_
  rw [hstep, Action.ends_bind]
  exact Action.ends_of_forall h fun _ _ => trivial

end Progress

open Progress

namespace Customers

/-- What is still to do from a stage on. -/
def rest (args : NewCustomer) : Stage → Action Memory Customer
  | .drafting => create args
  | .checking c => do
    conclude (← (do ensureNew c; Repository.saveCustomer c : Action Memory Customer).capture)
  | .storing c => do
    conclude (← (Repository.saveCustomer c : Action Memory Customer).capture)
where
  /-- The call ends as storing the customer did. -/
  conclude : Except Fault Customer → Action Memory Customer
    | .error f => throw (faultOf f)
    | .ok c => do
      announce c
      return c

theorem rest_eq (args : NewCustomer) (s : Stage) :
    rest args s = advance args s >>= resume (rest args) := by
  cases s with
  | drafting =>
      simp only [rest, create, advance, Memory.unitOfWork_eq, bind_assoc, pure_bind, resume]
      refine bind_congr fun c => bind_congr fun e => ?_
      cases e <;> rfl
  | checking c =>
      -- A customer whose email is known is refused before anything is stored.
      simp only [rest, advance, Action.capture_bind, bind_assoc]
      refine bind_congr fun e => ?_
      cases e <;> rfl
  | storing c =>
      simp only [rest, advance, bind_assoc]
      refine bind_congr fun e => ?_
      cases e with
      | error f => rfl
      | ok c => simp only [rest.conclude, bind_assoc, pure_bind, resume]

theorem completes (args : NewCustomer) (w : World Memory) :
    Completes (advance args) (rest args) (.underway .drafting) w := by
  have hstoring : ∀ c v, Completes (advance args) (rest args) (.underway (.storing c)) v := by
    refine fun c v => completes_of_bind rfl (rest_eq args _) fun e v => ?_
    cases e with
    | error f => trivial
    | ok c => exact completes_returned c
  have hchecking : ∀ c v, Completes (advance args) (rest args) (.underway (.checking c)) v := by
    refine fun c v => completes_of_bind rfl (rest_eq args _) fun e v => ?_
    cases e with
    | error f => trivial
    | ok _ => exact hstoring c v
  exact completes_of_bind rfl (rest_eq args _) hchecking

end Customers

namespace Orders

/-- What is still to do from a stage on. -/
def rest (args : NewOrder) : Stage → Action Memory Order
  | .drafting => ingest args
  | .storing o arrival => do
    let stored ← Repository.saveOrder o
    apply stored arrival
    return o
  | .applying o stored arrival => do
    apply stored arrival
    return o

theorem rest_eq (args : NewOrder) (s : Stage) :
    rest args s = advance args s >>= resume (rest args) := by
  cases s <;>
    simp only [rest, ingest, advance, Memory.unitOfWork_eq, bind_assoc, pure_bind, resume]

theorem completes (args : NewOrder) (w : World Memory) :
    Completes (advance args) (rest args) (.underway .drafting) w := by
  have happlying : ∀ o stored arrival v,
      Completes (advance args) (rest args) (.underway (.applying o stored arrival)) v :=
    fun o stored arrival v => completes_of_bind rfl (rest_eq args _) fun _ _ => completes_returned o
  have hstoring : ∀ o arrival v,
      Completes (advance args) (rest args) (.underway (.storing o arrival)) v :=
    fun o arrival v => completes_of_bind rfl (rest_eq args _) fun stored v =>
      happlying o stored arrival v
  refine completes_of_bind rfl (rest_eq args _) fun arrival v => ?_
  rw [Action.ends_bind]
  exact Action.ends_of_forall (fun o v => hstoring o arrival v) fun _ _ => trivial

end Orders

namespace Campaigns

/-- What is still to do from a stage on. -/
def rest (args : NewCampaign) : Stage → Action Memory Campaign
  | .compiling => create args.name args.message args.rules
  | .counting p => do
    let size ← Audience.count p
    let c ← draft args.name args.message args.rules size
    store c size
  | .drafting size => do
    let c ← draft args.name args.message args.rules size
    store c size
  | .storing c size => store c size
where
  /-- A drafted campaign is stored and announced. -/
  store (c : Campaign) (size : Nat) : Action Memory Campaign := do
    let c ← unitOfWork (Repository.saveCampaign c)
    announce c size
    return c

theorem rest_eq (args : NewCampaign) (s : Stage) :
    rest args s = advance args s >>= resume (rest args) := by
  cases s <;> simp only [rest, rest.store, create, advance, bind_assoc, pure_bind, resume]

theorem completes (args : NewCampaign) (w : World Memory) :
    Completes (advance args) (rest args) (.underway .compiling) w := by
  have hstoring : ∀ c size v,
      Completes (advance args) (rest args) (.underway (.storing c size)) v :=
    fun c size v => completes_of_bind rfl (rest_eq args _) fun c _ => completes_returned c
  have hdrafting : ∀ size v,
      Completes (advance args) (rest args) (.underway (.drafting size)) v :=
    fun size v => completes_of_bind rfl (rest_eq args _) fun c v => hstoring c size v
  have hcounting : ∀ p v, Completes (advance args) (rest args) (.underway (.counting p)) v :=
    fun p v => completes_of_bind rfl (rest_eq args _) hdrafting
  exact completes_of_bind rfl (rest_eq args _) hcounting

end Campaigns

namespace Dispatch

/-- What is still to do from a stage on. -/
def rest (args : NewDispatch) : Stage → Action Memory (List DeliveryRecord)
  | .compiling => start args.campaignId args.rules args.template args.now
  | .claiming p => do
    let campaign ← claim args.campaignId
    let customers ← resolveOrRelease args.campaignId p
    sendOut campaign customers
  | .refusing => refuse args.campaignId
  | .resolving campaign p => do
    let customers ← resolveOrRelease args.campaignId p
    sendOut campaign customers
  | .releasing f => do
    release args.campaignId
    throw f
  | .drafting campaign customers => sendOut campaign customers
  | .storing customers records => do
    let records ← storeOrRelease args.campaignId records
    announce args.campaignId records.length
    finish records (records.zip customers)
  | .handing records remaining => finish records remaining
  | .closing records completed => do
    noteCompletion args.campaignId completed
    return records
where
  /-- The records of a claimed campaign are drafted, stored and handed over. -/
  sendOut (campaign : Campaign) (customers : List Customer) :
      Action Memory (List DeliveryRecord) := do
    noteChange campaign customers.length
    let records ← draft args.campaignId args.template customers
    let records ← storeOrRelease args.campaignId records
    announce args.campaignId records.length
    finish records (records.zip customers)
  /-- Stored records are handed over, and the campaign is closed. -/
  finish (records : List DeliveryRecord) (remaining : List (DeliveryRecord × Customer)) :
      Action Memory (List DeliveryRecord) := do
    handOver remaining
    let completed ← unitOfWork (Repository.completeIfExhausted args.campaignId)
    noteCompletion args.campaignId completed
    return records

theorem rest_eq (args : NewDispatch) (s : Stage) :
    rest args s = advance args s >>= resume (rest args) := by
  cases s with
  | compiling =>
      simp only [rest, rest.sendOut, rest.finish, start, advance, bind_assoc, pure_bind, resume]
  | claiming p =>
      simp only [rest, advance, claim, Memory.unitOfWork_eq, bind_assoc]
      -- A campaign that was not pending is refused in the next stage.
      refine bind_congr fun found => ?_
      cases found with
      | none => simp only [pure_bind, resume, rest, refuse, bind_assoc]; rfl
      | some campaign => simp only [pure_bind, resume, rest]
  | refusing =>
      simp only [rest, advance, refuse, bind_assoc]
      rfl
  | resolving campaign p =>
      simp only [rest, advance, resolveOrRelease, bind_assoc]
      refine bind_congr fun e => ?_
      cases e with
      | error f =>
          simp only [pure_bind, resume, rest, bind_assoc]
          rfl
      | ok customers => simp only [pure_bind, resume, rest]
  | releasing f =>
      simp only [rest, advance, bind_assoc]
      rfl
  | drafting campaign customers =>
      simp only [rest, rest.sendOut, advance, bind_assoc, pure_bind, resume]
  | storing customers records =>
      simp only [rest, advance, storeOrRelease, bind_assoc]
      refine bind_congr fun e => ?_
      cases e with
      | error f =>
          simp only [pure_bind, resume, rest, bind_assoc]
          rfl
      | ok records => simp only [bind_assoc, pure_bind, resume, rest]
  | handing records remaining =>
      cases remaining with
      | nil => simp only [rest, rest.finish, handOver, advance, bind_assoc, pure_bind, resume]
      | cons x remaining =>
          rcases x with ⟨record, customer⟩
          simp only [rest, rest.finish, handOver, advance, bind_assoc, pure_bind, resume]
  | closing records completed => simp only [rest, advance, bind_assoc, pure_bind, resume]

theorem completes (args : NewDispatch) (w : World Memory) :
    Completes (advance args) (rest args) (.underway .compiling) w := by
  -- Stage by stage, from the last one to the first.
  have hclosing : ∀ records completed v,
      Completes (advance args) (rest args) (.underway (.closing records completed)) v :=
    fun records completed v => completes_of_bind rfl (rest_eq args _) fun _ _ =>
      completes_returned records
  -- The messages go out one by one.
  have hhanding : ∀ records remaining v,
      Completes (advance args) (rest args) (.underway (.handing records remaining)) v := by
    intro records remaining
    induction remaining with
    | nil => exact fun v => completes_of_bind rfl (rest_eq args _) (hclosing records)
    | cons x remaining ih =>
        exact fun v => completes_of_bind rfl (rest_eq args _) fun _ v => ih v
  have hreleasing : ∀ f v, Completes (advance args) (rest args) (.underway (.releasing f)) v :=
    fun f v => completes_of_bind rfl (rest_eq args _) fun _ _ => trivial
  have hstoring : ∀ customers records v,
      Completes (advance args) (rest args) (.underway (.storing customers records)) v := by
    refine fun customers records v => completes_of_bind rfl (rest_eq args _) fun e v => ?_
    cases e with
    | error f => exact hreleasing f v
    | ok records =>
        rw [Action.ends_bind]
        exact Action.ends_of_forall (fun _ v => hhanding records _ v) fun _ _ => trivial
  have hdrafting : ∀ campaign customers v,
      Completes (advance args) (rest args) (.underway (.drafting campaign customers)) v := by
    refine fun campaign customers v => completes_of_bind rfl (rest_eq args _) fun _ v => ?_
    rw [Action.ends_bind]
    exact Action.ends_of_forall (hstoring customers) fun _ _ => trivial
  have hresolving : ∀ campaign p v,
      Completes (advance args) (rest args) (.underway (.resolving campaign p)) v := by
    refine fun campaign p v => completes_of_bind rfl (rest_eq args _) fun e v => ?_
    cases e with
    | error f => exact hreleasing f v
    | ok customers => exact hdrafting campaign customers v
  have hrefusing : ∀ v, Completes (advance args) (rest args) (.underway .refusing) v :=
    fun v => completes_of_bind rfl (rest_eq args _) fun _ _ => trivial
  have hclaiming : ∀ p v, Completes (advance args) (rest args) (.underway (.claiming p)) v := by
    refine fun p v => completes_of_bind rfl (rest_eq args _) fun found v => ?_
    cases found with
    | none => exact hrefusing v
    | some campaign => exact hresolving campaign p v
  exact completes_of_bind rfl (rest_eq args _) hclaiming

end Dispatch

namespace Receipts

/-- What is still to do from a stage on. -/
def rest (args : Receipt) : Stage → Action Memory ReceiptResult
  | .checking => record args.recordId args.outcome
  | .finding => do
    let record ← find args.recordId
    if ← settle args.recordId args.outcome then count record else duplicate record
  | .settling record => do
    if ← settle args.recordId args.outcome then count record else duplicate record
  | .counting record => count record
where
  /-- The outcome of a settled record is counted for its campaign. -/
  count (record : DeliveryRecord) : Action Memory ReceiptResult := do
    let update ← Repository.recordOutcome record.campaignId args.outcome
    noteUpdate { record with id := args.recordId } args.outcome update
    return ⟨args.recordId, record.campaignId, update.counted, update.completed, false⟩
  /-- A record that was settled before is left alone. -/
  duplicate (record : DeliveryRecord) : Action Memory ReceiptResult := do
    noteDuplicate args.recordId
    return ⟨args.recordId, record.campaignId, false, false, true⟩

theorem rest_eq (args : Receipt) (s : Stage) :
    rest args s = advance args s >>= resume (rest args) := by
  cases s with
  | checking =>
      simp only [rest, record, apply, advance, Memory.unitOfWork_eq, bind_assoc, pure_bind, resume]
      refine bind_congr fun _ => bind_congr fun record => bind_congr fun settled => ?_
      cases settled with
      | false => simp only [rest.duplicate, Bool.false_eq_true, if_false, bind_assoc, pure_bind]
      | true => simp only [rest.count, if_true, bind_assoc, pure_bind]
  | finding => simp only [rest, advance, bind_assoc, pure_bind, resume]
  | settling record =>
      simp only [rest, advance, bind_assoc]
      refine bind_congr fun settled => ?_
      cases settled with
      | false =>
          simp only [rest.duplicate, Bool.false_eq_true, if_false, bind_assoc, pure_bind, resume]
      | true => simp only [if_true, pure_bind, resume, rest]
  | counting record => simp only [rest, rest.count, advance, bind_assoc, pure_bind, resume]

theorem completes (args : Receipt) (w : World Memory) :
    Completes (advance args) (rest args) (.underway .checking) w := by
  -- A receipt that has settled its record goes on to count it.
  have hcounting : ∀ record v,
      Completes (advance args) (rest args) (.underway (.counting record)) v := by
    refine fun record v => completes_of_bind rfl (rest_eq args _) fun update v => ?_
    rw [Action.ends_bind]
    exact Action.ends_of_forall (fun _ _ => completes_returned _) fun _ _ => trivial
  have hsettling : ∀ record v,
      Completes (advance args) (rest args) (.underway (.settling record)) v := by
    refine fun record v => completes_of_bind rfl (rest_eq args _) fun settled v => ?_
    cases settled with
    | false => exact completes_returned _
    | true => exact hcounting record v
  have hfinding : ∀ v, Completes (advance args) (rest args) (.underway .finding) v :=
    fun v => completes_of_bind rfl (rest_eq args _) hsettling
  exact completes_of_bind rfl (rest_eq args _) fun _ v => hfinding v

end Receipts

namespace Run

/-- A call as a whole, which leaves the call ended behind. -/
def Request.serve : Request → World Memory → Task × World Memory
  | .customer args, w =>
    let (p, v) := ended (Customers.create args) w
    (.customer args p, v)
  | .order args, w =>
    let (p, v) := ended (Orders.ingest args) w
    (.order args p, v)
  | .campaign args, w =>
    let (p, v) := ended (Campaigns.create args.name args.message args.rules) w
    (.campaign args p, v)
  | .dispatch args, w =>
    let (p, v) := ended (Dispatch.start args.campaignId args.rules args.template args.now) w
    (.dispatch args p, v)
  | .receipt args, w =>
    let (p, v) := ended (Receipts.record args.recordId args.outcome) w
    (.receipt args p, v)

namespace System

section

variable {S α : Type} (task : Progress S α → Task) (step : S → Action Memory (Progress S α))
  (hunderway : ∀ p, (task p).isUnderway = p.isUnderway)
  (hadvance : ∀ s w, (task (.underway s)).advance w =
    (task (after (step s) w).1, (after (step s) w).2))

include hunderway hadvance

/-- The last call takes a number of steps. -/
theorem run_replicate (n : Nat) :
    ∀ {s : System} {ts : List Task} {p : Progress S α}, s.tasks = ts ++ [task p] →
      (s.run (List.replicate n (.advance ts.length))).tasks =
          ts ++ [task (runFor step n p s.world).1] ∧
        (s.run (List.replicate n (.advance ts.length))).world = (runFor step n p s.world).2 := by
  induction n with
  | zero => exact fun h => ⟨h, rfl⟩
  | succ n ih =>
      intro s ts p h
      have hlast : s.tasks[ts.length]? = some (task p) := by
        rw [h, List.getElem?_concat_length]
      rw [List.replicate_succ, run, List.foldl_cons, move, hlast]
      -- A call that has ended before stays as it is for the remaining steps.
      cases p with
      | underway stage =>
          have htasks : (s.step ts.length (task (.underway stage))).tasks =
              ts ++ [task (after (step stage) s.world).1] := by
            rw [System.step, h, hadvance]
            simp only [List.set_append_right _ _ (Nat.le_refl _), Nat.sub_self, List.set_cons_zero]
          have hworld : (s.step ts.length (task (.underway stage))).world =
              (after (step stage) s.world).2 := by
            rw [System.step, hadvance]
          have hrest := ih htasks
          rw [hworld] at hrest
          simp only [hunderway, Progress.isUnderway, if_true]
          exact hrest
      | returned a =>
          have hrest := ih h
          simp only [hunderway, Progress.isUnderway, Bool.false_eq_true, if_false]
          cases n <;> exact hrest
      | raised f =>
          have hrest := ih h
          simp only [hunderway, Progress.isUnderway, Bool.false_eq_true, if_false]
          cases n <;> exact hrest

theorem exists_run {rest : S → Action Memory α} {first : S} (s : System) (r : Request)
    (hfirst : r.task = task (.underway first))
    (h : Completes step rest (.underway first) s.world) :
    ∃ n, let alone := s.run (.issue r :: List.replicate n (.advance s.tasks.length))
      alone.tasks = s.tasks ++ [task (ended (rest first) s.world).1] ∧
        alone.world = (ended (rest first) s.world : Progress S α × World Memory).2 := by
  -- The call is issued as the last one, and takes its steps there.
  rcases h with ⟨n, hn⟩
  have htasks : (s.move (.issue r)).tasks = s.tasks ++ [task (.underway first)] := by
    rw [move, hfirst]
  have hrun := run_replicate task step hunderway hadvance n htasks
  change runFor step n _ s.world = ended (rest first) s.world at hn
  change _ = s.tasks ++ [task (runFor step n _ s.world).1] ∧ _ = (runFor step n _ s.world).2 at hrun
  rw [hn] at hrun
  exact ⟨n, hrun⟩

end

/-- A call on its own is served as a whole. -/
theorem run_alone (s : System) (r : Request) :
    ∃ n, let alone := s.run (.issue r :: List.replicate n (.advance s.tasks.length))
      alone.tasks = s.tasks ++ [(r.serve s.world).1] ∧ alone.world = (r.serve s.world).2 := by
  cases r with
  | customer args =>
      exact exists_run (.customer args) _ (fun _ => rfl) (fun _ _ => rfl) s _ rfl
        (Customers.completes args s.world)
  | order args =>
      exact exists_run (.order args) _ (fun _ => rfl) (fun _ _ => rfl) s _ rfl
        (Orders.completes args s.world)
  | campaign args =>
      exact exists_run (.campaign args) _ (fun _ => rfl) (fun _ _ => rfl) s _ rfl
        (Campaigns.completes args s.world)
  | dispatch args =>
      exact exists_run (.dispatch args) _ (fun _ => rfl) (fun _ _ => rfl) s _ rfl
        (Dispatch.completes args s.world)
  | receipt args =>
      exact exists_run (.receipt args) _ (fun _ => rfl) (fun _ _ => rfl) s _ rfl
        (Receipts.completes args s.world)

end System

end Run

end Outreach
