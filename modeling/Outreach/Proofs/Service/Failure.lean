import Outreach.Proofs.Run.Invariant.Failures
import Outreach.Proofs.Service.Dispatch
import Outreach.Proofs.Service.Release

/-!
# How Calls for Campaigns Fail

A dispatch that runs by itself fails at one of a few places: its rules are not compiled,
before anything else; its campaign is not there, or is not pending; the audience query or
the batch fails after it was claimed, and it is put back. Everything else that can happen
is not among the failures to expect.

The creation of a campaign stores it last of all, so whatever fails has stored nothing.

## Main definitions

* `Dispatch.Fails`: The ways in which a dispatch fails.
* `Dispatch.Intact`: A world as it was, but for the time of change of a campaign that was
  claimed and put back.

## Theorems

* `Dispatch.ends_start_fails`: There are no other ways.
* `Dispatch.Fails.intact`: What a failure to expect leaves.
* `Dispatch.start_of_uncompiled`: Rules come first.
* `Campaigns.ends_create_fails`: What a campaign that is not created leaves.
-/

namespace Outreach

open Outreach.Action

variable {w v : World Memory} {id : Uuid} {c : Campaign} {rules : List Rule}
  {now : Option Timestamp} {f : Fault}

namespace Dispatch

/-! ## Failures one by one -/

/-- Rules come first: if they are not compiled, whatever the campaign, the dispatch fails
    with them and has changed nothing. -/
theorem start_of_uncompiled {t : Timestamp} (hclock : inUtc w.clock = .ok t)
    (hf : Rule.compile rules (now.getD t) = .error f) (id : Uuid) (template : Text) :
    start id rules template now w = .error f w := by
  have hends : Ends (start id rules template now) w (fun _ _ => False)
      fun g v => g = f ∧ v = w := by
    rw [start, ends_bind, ends_compileAt_of_error hclock hf]
    exact ⟨rfl, rfl⟩
  rcases failed_of_ends hends with ⟨_, _, hstart, rfl, rfl⟩
  exact hstart

/-- A campaign that is not there is not claimed. -/
theorem ends_claim_of_none (h : lookUp Campaign.id id w.store.tables.campaigns = none) :
    Ends (claim id) w (fun _ _ => False) fun f v => f = .campaignNotFound id ∧ v = w := by
  simp only [claim, mark, Memory.ends_unitOfWork, ends_bind, ends_capture, Repository.markSending]
  rw [Memory.ends_change_of_error (by rw [Memory.markSending_eq, h])]
  exact ⟨rfl, rfl⟩

/-- Neither is one that is not pending. -/
theorem ends_claim_of_started (hc : lookUp Campaign.id id w.store.tables.campaigns = some c)
    (hstarted : c.status ≠ .pending) :
    Ends (claim id) w (fun _ _ => False) fun f v =>
      f = .alreadyStarted id (some c.status) ∧ v = w := by
  simp only [claim, mark, Memory.ends_unitOfWork, ends_bind, ends_capture, Repository.markSending]
  rw [Memory.ends_change_of_ok (by rw [Memory.markSending_eq, hc]; exact if_neg hstarted)]
  simp only [refuse, ends_pure, ends_bind, Repository.campaignById, Memory.ends_ask_ok, ends_throw,
    hc, Option.map_some, and_self]

/-- Stored records of a stored campaign are delivered, unless receipts have nowhere to go. -/
theorem ends_deliver_of_stored (hc : lookUp Campaign.id id w.store.tables.campaigns = some c)
    (customers : List Customer) (records : List DeliveryRecord) :
    Ends (deliver id customers records) w (fun _ _ => True) fun f _ => f = .noSink := by
  refine ((ends_of_quiet (announce id records.length) w).mono (fun _ _ h => h)
    fun _ _ h => h.elim).bind fun _ w₁ h₁ => ?_
  refine (ends_handOver _ w₁).bind fun _ w₂ h₂ => ?_
  have hstored : lookUp Campaign.id id w₂.store.tables.campaigns = some c := by
    rw [h₂, World.eq_of_core h₁]
    exact hc
  simp only [ends_bind, Memory.ends_unitOfWork, Repository.completeIfExhausted]
  rw [Memory.ends_change_of_ok (by simp only [Memory.completeIfExhausted_eq, hstored]; rfl)]
  exact (ends_of_quiet (noteCompletion id _) _).mono (fun _ _ _ => trivial) fun _ _ h => h.elim

/-! ## All failures -/

/-- The ways in which a dispatch fails: the fault, and the world that it leaves. Where it
    is no failure to expect, nothing is said about the world. -/
inductive Fails (id : Uuid) (rules : List Rule) (now : Option Timestamp) (w : World Memory) :
    Fault → World Memory → Prop
  | rules {t : Timestamp} {f : Fault} (clock : inUtc w.clock = .ok t)
      (fails : Rule.compile rules (now.getD t) = .error f) : Fails id rules now w f w
  | missing (none : lookUp Campaign.id id w.store.tables.campaigns = none) :
      Fails id rules now w (.campaignNotFound id) w
  | started {c : Campaign} (stored : lookUp Campaign.id id w.store.tables.campaigns = some c)
      (started : c.status ≠ .pending) :
      Fails id rules now w (.alreadyStarted id (some c.status)) w
  | undone {c : Campaign} {f : Fault} {v : World Memory} {reason : Text}
      (fault : f = .resolverUnavailable reason ∨ f = .storeUnavailable reason)
      (stored : lookUp Campaign.id id w.store.tables.campaigns = some c)
      (pending : c.status = .pending) (undone : Undone c w v) : Fails id rules now w f v
  | other {f : Fault} {v : World Memory} (unexpected : documents f = false) :
      Fails id rules now w f v

/-- Where pending campaigns have no outcomes, a dispatch fails in one of these ways. -/
theorem ends_start_fails
    (huncounted : ∀ c, lookUp Campaign.id id w.store.tables.campaigns = some c →
      c.status = .pending → c.outcomeCount = 0)
    (rules : List Rule) (template : Text) (now : Option Timestamp) :
    Ends (start id rules template now) w (fun _ _ => True) fun f v => Fails id rules now w f v := by
  cases hclock : inUtc w.clock with
  | error f =>
      rw [start, ends_bind, ends_compileAt_of_clock hclock]
      exact .other (by rw [fault_of_inUtc hclock]; rfl)
  | ok t =>
      cases hp : Rule.compile rules (now.getD t) with
      | error f =>
          rw [start, ends_bind, ends_compileAt_of_error hclock hp]
          exact .rules hclock hp
      | ok p =>
          cases hc : lookUp Campaign.id id w.store.tables.campaigns with
          | none =>
              rw [start, ends_bind, ends_compileAt_of_ok hclock hp]
              refine ((ends_claim_of_none hc).mono (fun _ _ h => h) ?_).bind fun _ _ h => h.elim
              rintro _ _ ⟨rfl, rfl⟩
              exact .missing hc
          | some c =>
              by_cases hpending : c.status = .pending
              -- Once it is claimed, the campaign is put back, or the failure is not to expect.
              · rw [start_eq]
                refine ((ends_prepare_of_compiled hclock hp hc hpending (huncounted c hc hpending)
                  template).mono (fun _ _ h => h) ?_).bind ?_
                · rintro g v (⟨⟨reason, hg⟩, hundone⟩ | hstuck)
                  · exact .undone hg hc hpending hundone
                  · exact .other (by rw [hstuck.fault]; rfl)
                · rintro x w₁ ⟨d, hd⟩
                  exact (ends_deliver_of_stored hd x.1 x.2).mono (fun _ _ h => h)
                    fun g _ hg => .other (by rw [hg]; rfl)
              · rw [start, ends_bind, ends_compileAt_of_ok hclock hp]
                refine ((ends_claim_of_started hc hpending).mono (fun _ _ h => h) ?_).bind
                  fun _ _ h => h.elim
                rintro _ _ ⟨rfl, rfl⟩
                exact .started hc hpending

/-! ## What is left -/

/-- A world as it was before a failure, but for the time of change of a campaign that was
    pending, was claimed and was put back. That happens only if the store has failed; after
    any other failure to expect the whole world is as it was. -/
structure Intact (id : Uuid) (f : Fault) (w v : World Memory) : Prop where
  customers : v.store.tables.customers = w.store.tables.customers
  orders : v.store.tables.orders = w.store.tables.orders
  records : v.store.tables.records = w.store.tables.records
  campaigns : v.store.tables.campaigns = w.store.tables.campaigns ∨
    ∃ c t, lookUp Campaign.id id w.store.tables.campaigns = some c ∧ c.status = .pending ∧
      v.store.tables.campaigns =
        upsert Campaign.id { c with updatedAt := t } w.store.tables.campaigns
  sender : v.sender = w.sender
  unclaimed : (∀ reason, f ≠ .resolverUnavailable reason) → f.isRepository = false → v = w

theorem Intact.refl (id : Uuid) (f : Fault) (w : World Memory) : Intact id f w w :=
  ⟨rfl, rfl, rfl, Or.inl rfl, rfl, fun _ _ => rfl⟩

/-- Failures to expect leave everything intact. -/
theorem Fails.intact (h : Fails id rules now w f v) (hf : documents f = true) :
    Intact id f w v := by
  cases h with
  | rules clock fails => exact .refl id f w
  | missing none => exact .refl id _ w
  | started stored started => exact .refl id _ w
  | undone fault stored pending undone =>
      rcases undone.store with ⟨t, hstore⟩
      refine ⟨?_, ?_, ?_, Or.inr ⟨_, t, stored, pending, ?_⟩, undone.sender, ?_⟩
      iterate 4
        rw [hstore]
        rfl
      · rintro hresolver hrepository
        rcases fault with rfl | rfl
        · exact absurd rfl (hresolver _)
        · cases hrepository
  | other unexpected => cases hf.symm.trans unexpected

/-- A rule is blamed only if the rules are not compiled. -/
theorem Fails.uncompiled (h : Fails id rules now w f v) (hf : f.isRule = true) :
    v = w ∧ ∃ t, inUtc w.clock = .ok t ∧ Rule.compile rules (now.getD t) = .error f := by
  cases h with
  | rules clock fails => exact ⟨rfl, _, clock, fails⟩
  | missing none => cases hf
  | started stored started => cases hf
  | undone fault stored pending undone => rcases fault with rfl | rfl <;> cases hf
  | other unexpected =>
      have hdocumented : documents f = true := by
        cases f <;> first | rfl | cases hf
      cases hdocumented.symm.trans unexpected

end Dispatch

namespace Campaigns

/-- A campaign that is not created has left the store and the sender alone. -/
theorem ends_create_fails (name message : Text) (rules : List Rule) :
    Ends (create name message rules) w (fun _ _ => True) fun _ v =>
      v.store = w.store ∧ v.sender = w.sender := by
  simp only [create, compileAt, Audience.count, Audience.query, draft, announce, ends_bind,
    ends_now, ends_ofExcept, ends_capture, Memory.ends_unitOfWork, Repository.countMatching,
    Memory.ends_ask, ends_pure, ends_note, ends_ite, ends_throw, ends_freshId, ends_measure,
    Repository.saveCampaign, Memory.ends_put, and_self, implies_true]

end Campaigns

end Outreach
