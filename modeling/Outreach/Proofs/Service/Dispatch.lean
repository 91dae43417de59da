import Outreach.Proofs.Run.Effect.Steps

/-!
# What a Dispatch Leaves Behind

A dispatch that succeeds has found its campaign pending. It leaves the campaign
started, and completed at once if there is nobody to wait for, and its records
pending. Nothing else has changed in the tables of campaigns and records.

## Main definitions

* `Dispatch.Done`: A successful dispatch, by the tables before and after.

## Theorems

* `Dispatch.ends_start`: A dispatch that succeeds is done.
-/

namespace Outreach

namespace Dispatch

/-- A successful dispatch, by the tables before and after. -/
structure Done (id : Uuid) (before after : Tables Customer) : Prop where
  campaign : ∃ c now later, lookUp Campaign.id id before.campaigns = some c ∧
    c.status = .pending ∧ lookUp Campaign.id id after.campaigns =
      some (({ c with status := .sending, updatedAt := now } : Campaign).completeIfExhausted
        later).1
  records : ∀ r ∈ after.records, r ∈ before.records ∨ r.campaignId = id ∧ r.status = .pending

variable {w : World Memory} {id : Uuid} {bad : Fault → World Memory → Prop}

/-- A campaign that is claimed was pending, and is being sent. -/
theorem ends_claim (id : Uuid) (w : World Memory) :
    Action.Ends (claim id) w
      (fun _ v => ∃ c now, lookUp Campaign.id id w.store.tables.campaigns = some c ∧
        c.status = .pending ∧
        v.store = w.store.putCampaign { c with status := .sending, updatedAt := now })
      fun _ _ => True := by
  simp only [claim, mark, Memory.ends_unitOfWork, Action.ends_bind, Action.ends_capture,
    Repository.markSending]
  cases hc : lookUp Campaign.id id w.store.tables.campaigns with
  | none =>
      rw [Memory.ends_change_of_error (by rw [Memory.markSending_eq, hc])]
      trivial
  | some c =>
      by_cases hp : c.status = .pending
      · rw [Memory.ends_change_of_ok (by rw [Memory.markSending_eq, hc]; exact if_pos hp)]
        exact ⟨c, w.time, rfl, hp, rfl⟩
      · rw [Memory.ends_change_of_ok (by rw [Memory.markSending_eq, hc]; exact if_neg hp)]
        simp only [refuse, Action.ends_pure, Action.ends_bind, Repository.campaignById,
          Memory.ends_ask_ok, Action.ends_throw]

/-- A resolved audience leaves the store as it is. -/
theorem ends_resolveOrRelease (id : Uuid) (p : Predicate) (w : World Memory) :
    Action.Ends (resolveOrRelease id p) w (fun _ v => v.store = w.store) fun _ _ => True := by
  simp only [resolveOrRelease, tryResolve, Audience.resolve, Audience.query, Action.ends_bind,
    Action.ends_capture, Memory.ends_unitOfWork, Repository.findMatching, Memory.ends_ask,
    Action.ends_pure, Action.ends_note, Action.ends_ite, Action.ends_throw]
  -- Whatever putting the campaign back does, the call fails after it.
  have hrelease : ∀ v : World Memory,
      Action.Ends (release id) v (fun _ _ => True) fun _ _ => True :=
    fun v => Action.ends_of_forall (fun _ _ => trivial) fun _ _ => trivial
  refine ⟨fun _ _ => trivial, fun e _ => ⟨fun _ => hrelease _, fun _ => ?_⟩⟩
  cases e with
  | resolverUnavailable reason =>
      simp only [Action.ends_bind, Action.ends_note, Action.ends_pure, Action.ends_throw]
      exact hrelease _
  | _ => trivial

/-- Stored records are in the table. -/
theorem ends_storeOrRelease (id : Uuid) (records : List DeliveryRecord) (w : World Memory) :
    Action.Ends (storeOrRelease id records) w
      (fun _ v => v.store.tables = { w.store.tables with
        records := records.foldl (fun xs r => upsert DeliveryRecord.id r xs)
          w.store.tables.records })
      fun _ _ => True := by
  simp only [storeOrRelease, tryStore, Action.ends_bind, Action.ends_capture,
    Memory.ends_unitOfWork, Repository.saveRecords]
  cases hb : w.store.batchFault with
  | none =>
      rw [Memory.ends_change_of_ok (by simp only [Memory.saveRecords_eq, hb]; rfl)]
      exact rfl
  | some reason =>
      rw [Memory.ends_change_of_error (by simp only [Memory.saveRecords_eq, hb]; rfl)]
      simp only [Fault.isRepository, if_true, Action.ends_bind, Action.ends_note,
        Action.ends_pure, Action.ends_throw]
      exact Action.ends_of_forall (fun _ _ => trivial) fun _ _ => trivial

/-- Handing over leaves the store as it is, and fails only if receipts have nowhere to go. -/
theorem ends_handOver : ∀ (pairs : List (DeliveryRecord × Customer)) (w : World Memory),
    Action.Ends (handOver pairs) w (fun _ v => v.store = w.store) fun f _ => f = .noSink
  | [], _ => rfl
  | (r, c) :: rest, w => by
      simp only [handOver, Action.send, Action.ends_bind, Action.ends_get, Action.ends_ite,
        Action.ends_set, Action.ends_throw]
      exact ⟨fun _ => ends_handOver rest _, fun _ => trivial⟩

/-- A dispatch that succeeds is done. -/
theorem ends_start (rules : List Rule) (template : Text) (now : Option Timestamp) :
    Action.Ends (start id rules template now) w
      (fun _ v => Done id w.store.tables v.store.tables) fun _ _ => True := by
  have hcompile : Action.Ends (compileAt rules now) w (fun _ v => v = w) fun _ _ => True := by
    simp only [compileAt, Action.ends_bind, Action.ends_now, Action.ends_ofExcept]
    exact ⟨fun _ _ => ⟨fun _ _ => trivial, fun _ _ => trivial⟩, fun _ _ => trivial⟩
  refine hcompile.bind fun p w₁ h₁ => ?_
  subst h₁
  refine (ends_claim id w₁).bind fun campaign w₂ h₂ => ?_
  rcases h₂ with ⟨c, claimed, hc, hpending, h₂⟩
  refine (ends_resolveOrRelease id p w₂).bind fun customers w₃ h₃ => ?_
  have hnote : Action.Ends (noteChange campaign customers.length) w₃
      (fun _ v => v.store = w₃.store) fun _ _ => True := by
    simp only [noteChange, Action.ends_ite, Action.ends_note, Action.ends_pure]
    exact ⟨fun _ => trivial, fun _ => trivial⟩
  refine hnote.bind fun _ w₄ h₄ => ?_
  refine ((ends_draft id template customers w₄).mono (fun _ _ h => h)
    fun _ _ _ => trivial).bind fun records w₅ h₅ => ?_
  rcases h₅ with ⟨h₅, -, -, hfresh⟩
  refine (ends_storeOrRelease id records w₅).bind fun stored w₆ h₆ => ?_
  have hannounce : Action.Ends (announce id stored.length) w₆
      (fun _ v => v.store = w₆.store) fun _ _ => True := by
    simp only [announce, Action.ends_bind, Action.ends_measure, Action.ends_get, Action.ends_note]
  refine hannounce.bind fun _ w₇ h₇ => ?_
  refine ((ends_handOver _ w₇).mono (fun _ _ h => h) fun _ _ _ => trivial).bind
    fun _ w₈ h₈ => ?_
  -- What is left of the call meets the claimed campaign and the stored records.
  have htables : w₈.store.tables = { w₁.store.tables with
      campaigns := upsert Campaign.id { c with status := .sending, updatedAt := claimed }
        w₁.store.tables.campaigns
      records := records.foldl (fun xs r => upsert DeliveryRecord.id r xs)
        w₁.store.tables.records } := by
    have h₅tables : w₅.store.tables = w₄.store.tables := congrArg Ledger.tables h₅
    rw [h₈, h₇, h₆, h₅tables, h₄, h₃, h₂]
    rfl
  have hcid : c.id = id := key_of_lookUp hc
  have hfound : lookUp Campaign.id id w₈.store.tables.campaigns =
      some { c with status := .sending, updatedAt := claimed } := by
    rw [htables]
    exact (lookUp_upsert id _ _).trans (if_pos hcid)
  simp only [Memory.ends_unitOfWork, Repository.completeIfExhausted, Action.ends_bind]
  rw [Memory.ends_change_of_ok
    (by simp only [Memory.completeIfExhausted_eq, hfound]; rfl)]
  have hdone : Done id w₁.store.tables
      { w₈.store.tables with
        campaigns := upsert Campaign.id
          (({ c with status := .sending, updatedAt := claimed } : Campaign).completeIfExhausted
            w₈.time).1 w₈.store.tables.campaigns } := by
    refine ⟨⟨c, claimed, w₈.time, hc, hpending, ?_⟩, fun r hr => ?_⟩
    · refine (lookUp_upsert id _ _).trans (if_pos ?_)
      exact (Campaign.completeIfExhausted_keeps w₈.time).1.trans hcid
    · simp only [htables] at hr
      exact (mem_foldl_upsert hr).symm.imp_right (hfresh r)
  simp only [noteCompletion, Action.ends_ite, Action.ends_bind, Action.ends_measure,
    Action.ends_note, Action.ends_pure]
  exact ⟨fun _ => hdone, fun _ => hdone⟩

end Dispatch

end Outreach
