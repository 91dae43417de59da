import Outreach.Proofs.Run.Board
import Outreach.Proofs.Service.Failure

/-!
# Failures Leave Everything Intact

At any point of any run, a call for a campaign that is then made by itself leaves
everything as it was if it fails as it may be expected to. The store does not take back
what was written to it. A dispatch that was under way takes its claim back by itself, which
restores the campaign just because nothing can have been counted for one that was pending.

## Main definitions

* `Ledger.Uncounted`: No pending campaign has outcomes.
* `Run.Task.Uncounted`, `Run.Board.Uncounted`: Neither has one that is still to be stored.
* `Run.FailuresIntact`: What failing calls leave of a world.

## Theorems

* `Run.Board.Uncounted.step`: Every step keeps it so.
* `Run.System.uncounted_run`: So does a run.
* `Run.failures_leave_intact`: Every world of a run.
-/

namespace Outreach

section

/-! ## Pending campaigns have no outcomes

Outcomes are counted only while a campaign is being sent, and only a campaign without
outcomes is put back. So nothing was counted for a pending campaign, whatever calls were
made side by side. This does not depend on the identifiers that were drawn.

Between two steps a call may hold a new campaign that is not stored yet. -/

variable {k k' : Ledger}

namespace Ledger

/-- No pending campaign has outcomes. -/
def Uncounted (k : Ledger) : Prop :=
  ∀ id c, k.campaign? id = some c → c.status = .pending → c.outcomeCount = 0

theorem Uncounted.of_campaigns (h : k.Uncounted)
    (hsame : k'.tables.campaigns = k.tables.campaigns) : k'.Uncounted := by
  intro id c hc
  rw [campaign?, hsame] at hc
  exact h id c hc

theorem Uncounted.putCampaign (h : k.Uncounted) {c : Campaign}
    (hc : c.status = .pending → c.outcomeCount = 0) : (k.putCampaign c).Uncounted := by
  intro id d hd
  rw [campaign?_putCampaign] at hd
  by_cases hid : c.id = id
  · rw [if_pos hid, Option.some.injEq] at hd
    rw [← hd]
    exact hc
  · rw [if_neg hid] at hd
    exact h id d hd

end Ledger

/-- A new campaign that a call is going to store has no outcomes. -/
def Run.Task.Uncounted : Run.Task → Prop
  | campaign _ (.underway (.storing c _)) => c.outcomeCount = 0
  | _ => True

/-! ## The steps of each kind of call -/

open Run in
theorem Campaigns.Effect.keeps_uncounted {args : NewCampaign} {s : Stage}
    {p : Progress Stage Campaign} (h : Effect k s k' p) (hk : k.Uncounted)
    (hs : (Task.campaign args (.underway s)).Uncounted) :
    k'.Uncounted ∧ (Task.campaign args p).Uncounted := by
  cases h with
  | compiled p => exact ⟨hk, trivial⟩
  | counted found => exact ⟨hk, trivial⟩
  | drafted id pending unsent unfailed audience =>
      rename_i size c
      have hnone : c.outcomeCount = 0 := by
        rw [Campaign.outcomeCount, unsent, unfailed]
        rfl
      exact ⟨hk.of_campaigns rfl, hnone⟩
  | stored => exact ⟨hk.putCampaign fun _ => hs, trivial⟩
  | failed f n => exact ⟨hk.of_campaigns rfl, trivial⟩

theorem Dispatch.Effect.keeps_uncounted {args : NewDispatch} {s : Stage}
    {p : Progress Stage (List DeliveryRecord)} (h : Effect args k s k' p) (hk : k.Uncounted) :
    k'.Uncounted := by
  cases h with
  | claimed now stored pending => exact hk.putCampaign nofun
  | released now stored sending none_counted => exact hk.putCampaign fun _ => none_counted
  | closed now stored =>
      refine hk.putCampaign fun hafter => ?_
      rename_i records c
      by_cases hc : c.status = .pending
      · rw [Campaign.completeIfExhausted_of_not now fun h => nomatch hc.symm.trans h.1]
        exact hk _ c stored hc
      · exact absurd hafter (Campaign.status_completeIfExhausted now hc)
  | _ => exact hk.of_campaigns rfl

theorem Receipts.Effect.keeps_uncounted {args : Receipt} {s : Stage} {p : Progress Stage ReceiptResult}
    (h : Effect args k s k' p) (hk : k.Uncounted) : k'.Uncounted := by
  cases h with
  | counted now stored outcome =>
      refine hk.putCampaign fun hafter => ?_
      rename_i record c after update
      by_cases hc : c.status = .pending
      · rw [Campaign.recordOutcome_of_not now (Campaign.isOutcome_of_recordOutcome outcome)
          fun h => nomatch hc.symm.trans h.1] at outcome
        cases outcome
        exact hk _ c stored hc
      · exact absurd hafter (Campaign.status_recordOutcome outcome hc)
  | _ => exact hk.of_campaigns rfl

namespace Run

/-- No pending campaign has outcomes, stored or still to be stored. -/
structure Board.Uncounted (b : Board) : Prop where
  ledger : b.ledger.Uncounted
  tasks : ∀ t ∈ b.tasks, t.Uncounted

variable {t t' : Task}

theorem Task.Effect.keeps_uncounted (h : Effect k t k' t') (hk : k.Uncounted) (ht : t.Uncounted) :
    k'.Uncounted ∧ t'.Uncounted := by
  cases h with
  | customer aside => exact ⟨hk.of_campaigns aside.campaigns, trivial⟩
  | order aside => exact ⟨hk.of_campaigns aside.campaigns, trivial⟩
  | campaign effect => exact effect.keeps_uncounted hk ht
  | dispatch effect => exact ⟨effect.keeps_uncounted hk, trivial⟩
  | receipt effect => exact ⟨effect.keeps_uncounted hk, trivial⟩

/-- Every step keeps it so. -/
theorem Board.Uncounted.step {b b' : Board} (h : b.Uncounted) (hstep : b.Step b') :
    b'.Uncounted := by
  cases hstep with
  | issued r =>
      refine ⟨h.ledger, fun t ht => ?_⟩
      rcases List.mem_append.1 ht with hold | hnew
      · exact h.tasks t hold
      · rw [List.mem_singleton.1 hnew]
        cases r <;> exact trivial
  | advanced task effect =>
      have hboth := effect.keeps_uncounted h.ledger (h.tasks _ (List.mem_of_getElem? task))
      refine ⟨hboth.1, fun u hu => ?_⟩
      rcases List.mem_or_eq_of_mem_set hu with hold | rfl
      · exact h.tasks u hold
      · exact hboth.2

namespace System

theorem uncounted_of_run (moves : List Move) : ∀ {s : System}, s.board.Uncounted →
    (s.run moves).board.Uncounted := by
  induction moves with
  | nil => exact fun h => h
  | cons m rest ih =>
      intro s h
      refine ih (s := s.move m) ?_
      rcases board_move s m with heq | hstep
      · rw [heq]
        exact h
      · exact h.step hstep

/-- Along every run from a blank world, no pending campaign has outcomes. -/
theorem uncounted_run {w : World Memory} (hblank : w.Blank) (moves : List Move) :
    ((start w).run moves).board.Uncounted := by
  refine uncounted_of_run moves ⟨fun id c hc => ?_, fun t ht => absurd ht List.not_mem_nil⟩
  have hnone : lookUp Campaign.id id w.store.tables.campaigns = some c := hc
  rw [hblank.tables] at hnone
  cases hnone

end System

end Run

end

/-! ## Failures leave everything intact -/

namespace Run

/-- What failing calls leave of a world. -/
structure FailuresIntact (w : World Memory) : Prop where
  /-- A dispatch with a failure to expect. -/
  dispatch : ∀ id rules template now f v, Dispatch.start id rules template now w = .error f v →
    Dispatch.documents f = true → Dispatch.Intact id f w v
  /-- The creation of a campaign, whatever the failure. -/
  creation : ∀ name message rules f v, Campaigns.create name message rules w = .error f v →
    v.store = w.store ∧ v.sender = w.sender
  /-- Rules that are not compiled are blamed, whatever the campaign, and nothing has
      changed. -/
  rulesFirst : ∀ rules now t f, inUtc w.clock = .ok t →
    Rule.compile rules (now.getD t) = .error f →
      f.isRule = true ∧ ∀ id template, Dispatch.start id rules template now w = .error f w
  /-- Rules are blamed for nothing else. -/
  rulesOnly : ∀ id rules template now f v, Dispatch.start id rules template now w = .error f v →
    f.isRule = true → v = w ∧
      ∃ t, inUtc w.clock = .ok t ∧ Rule.compile rules (now.getD t) = .error f

/-- At every point of every run from a blank world, calls for campaigns that fail leave
    everything intact. -/
theorem failures_leave_intact {w : World Memory} (hblank : w.Blank) (moves : List Move) :
    FailuresIntact ((System.start w).run moves).world := by
  have huncounted := (System.uncounted_run hblank moves).ledger
  generalize (System.start w).run moves = s at huncounted ⊢
  -- Every failing dispatch fails in one of the ways that there are.
  have hfails : ∀ id rules template now f v,
      Dispatch.start id rules template now s.world = .error f v →
        Dispatch.Fails id rules now s.world f v := by
    intro id rules template now f v h
    have hends := Dispatch.ends_start_fails (huncounted id) rules template now
    rwa [Action.Ends, h] at hends
  refine ⟨?_, ?_, ?_, ?_⟩
  · exact fun id rules template now f v h => (hfails id rules template now f v h).intact
  · intro name message rules f v h
    have hends := Campaigns.ends_create_fails (w := s.world) name message rules
    rwa [Action.Ends, h] at hends
  · intro rules now t f hclock hf
    refine ⟨?_, Dispatch.start_of_uncompiled hclock hf⟩
    rcases Rule.ruleValue_of_compile_error hf with ⟨r, -, problem, rfl⟩
    rfl
  · exact fun id rules template now f v h => (hfails id rules template now f v h).uncompiled

/-- The opening of a run, after which the store takes no batches. -/
def interrupted : List Move :=
  opening ++ [.turn ⟨sampleWorld.clock, true, some "connection reset", true⟩]

/-- A dispatch that meets with that is put back, and one with a rule that cannot be read
    changes nothing. -/
theorem failures_leave_intact_in_sample :
    let before := ((System.start sampleWorld).run interrupted).world
    sampleWorld.Blank ∧
      (∃ f after, Dispatch.start (Uuid.ofNat 1) [] "Hello" none before = .error f after ∧
        f.isRepository = true ∧ Dispatch.Intact (Uuid.ofNat 1) f before after) ∧
      ∃ f, ∀ id template,
        Dispatch.start id [⟨.visits, .less, "many", .and⟩] template none before =
          .error f before := by
  have hblank : sampleWorld.Blank := World.blank_blank _
  have hintact := failures_leave_intact hblank interrupted
  have hclock : inUtc ((System.start sampleWorld).run interrupted).world.clock =
      .ok sampleWorld.clock := inUtc_eq_ok_iff.2 (by decide +kernel)
  have hfails : Action.Ends (Dispatch.start (Uuid.ofNat 1) [] "Hello" none)
      ((System.start sampleWorld).run interrupted).world (fun _ _ => False)
      fun f _ => f.isRepository = true := by
    decide +kernel
  have hunread : ¬∀ r ∈ [(⟨.visits, .less, "many", .and⟩ : Rule)],
      r.Parses sampleWorld.clock := by
    decide +kernel
  refine ⟨hblank, ?_, ?_⟩
  · rcases Action.failed_of_ends hfails with ⟨f, after, hfails, hrepository⟩
    have hdocumented : Dispatch.documents f = true := by
      cases f <;> first | rfl | cases hrepository
    exact ⟨f, after, hfails, hrepository, hintact.dispatch _ _ _ _ f after hfails hdocumented⟩
  · cases hf : Rule.compile [⟨.visits, .less, "many", .and⟩] sampleWorld.clock with
    | ok p => exact absurd (Rule.exists_compile_iff.1 ⟨p, hf⟩) hunread
    | error f => exact ⟨f, (hintact.rulesFirst _ none _ f hclock hf).2⟩

end Run

end Outreach
