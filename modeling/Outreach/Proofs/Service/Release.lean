import Outreach.Proofs.Rule.Faults
import Outreach.Proofs.Run.System
import Outreach.Proofs.Service.Course

/-!
# A Dispatch That Fails Puts Its Campaign Back

The campaign is claimed before its audience is resolved and its records are stored, and
what fails in between has to put it back. It does when the store fails, be it in the
audience query or in storing the batch. The rules are compiled and the clock is read
before, and drafting records does not fail once the clock was read.

One fault is left. Matching a customer fails when a rule on the last visit sets an aware
time against a naive one. This is not a fault of the store, so the campaign stays
claimed, without records and for good. Visits are aware from the beginning, and so is
the clock. It takes a naive time given by the caller.

## Main definitions

* `Dispatch.PutBack`: A campaign as it was, in a world that has not changed otherwise.
* `Dispatch.Undone`: A campaign that was claimed and stored again as it was.
* `Dispatch.Stuck`: A campaign that stays claimed because of mixed kinds of time.
* `Dispatch.Startable`: A campaign that can be started once everything is in order.

## Theorems

* `Dispatch.ends_prepare_of_compiled`, `Dispatch.ends_prepare_of_pending`: How a dispatch
  fails before its records are stored.
* `Dispatch.PutBack.startable`: What was put back can be started.
* `Dispatch.failed_dispatch_puts_back`: Both together, for the call as a whole.
-/

namespace Outreach

open Outreach.Action

namespace Dispatch

variable {w v : World Memory} {id : Uuid} {c : Campaign}

/-- A campaign is as it was before, but for its time of change, and the world has not
    changed otherwise in what it stores and what was handed over. -/
structure PutBack (id : Uuid) (c : Campaign) (w v : World Memory) : Prop where
  campaign : ∃ t, lookUp Campaign.id id v.store.tables.campaigns = some { c with updatedAt := t }
  others : ∀ other, other ≠ id → lookUp Campaign.id other v.store.tables.campaigns =
    lookUp Campaign.id other w.store.tables.campaigns
  records : v.store.tables.records = w.store.tables.records
  customers : v.store.tables.customers = w.store.tables.customers
  orders : v.store.tables.orders = w.store.tables.orders
  sender : v.sender = w.sender

/-- A dispatch failed because a rule mixes kinds of time. Its campaign stays claimed, and
    nothing else has changed. -/
structure Stuck (c : Campaign) (rules : List Rule) (now : Option Timestamp) (f : Fault)
    (w v : World Memory) : Prop where
  fault : f = .wrongType
  mixes : ∃ r ∈ rules, ∃ d ∈ w.store.tables.customers, r.Mixes (now.getD w.time) d
  claimed : v.core = (putIn w { c with status := .sending, updatedAt := w.time }).core

/-- A campaign that can be started: by every call whose rules can be compiled and do not
    mix kinds of time, once everything is in order. -/
def Startable (id : Uuid) (t : Tables Customer) : Prop :=
  ∀ (u : World Memory) (rules : List Rule) (template : Text) (now : Option Timestamp)
    (p : Predicate),
    u.store.tables = t → u.InOrder → Rule.compile rules (now.getD u.clock) = .ok p →
      (∀ r ∈ rules, ∀ d ∈ t.customers, ¬r.Mixes (now.getD u.clock) d) →
        ∃ records u', start id rules template now u = .ok records u'

theorem PutBack.refl (hc : lookUp Campaign.id id w.store.tables.campaigns = some c) :
    PutBack id c w w :=
  ⟨⟨c.updatedAt, hc⟩, fun _ _ => rfl, rfl, rfl, rfl, rfl⟩

/-- A pending campaign was claimed and stored again as it was, but for its time of change,
    and nothing has gone out. -/
structure Undone (c : Campaign) (w v : World Memory) : Prop where
  store : ∃ t, v.store = w.store.putCampaign { c with updatedAt := t }
  sender : v.sender = w.sender

/-- A pending campaign that was claimed is put back by storing it as pending. -/
theorem undone_of_core {claimed later : Timestamp} {w₁ : World Memory}
    (hpending : c.status = .pending)
    (hstore : w₁.store = (putIn w { c with status := .sending, updatedAt := claimed }).store)
    (hsender : w₁.sender = w.sender)
    (h : v.core = (putIn w₁ { c with status := .pending, updatedAt := later }).core) :
    Undone c w v := by
  have hv := World.eq_of_core h
  refine ⟨⟨later, ?_⟩, ?_⟩
  · calc
      v.store = w₁.store.putCampaign { c with status := .pending, updatedAt := later } := by
          rw [hv]
          rfl
      _ = (putIn (putIn w { c with status := .sending, updatedAt := claimed })
            { c with status := .pending, updatedAt := later }).store := by
          rw [hstore]
          rfl
      _ = (putIn w { c with status := .pending, updatedAt := later }).store := by
          rw [putIn_putIn]
          rfl
      _ = w.store.putCampaign { c with updatedAt := later } := by
          rw [← hpending]
          rfl
  · rw [hv]
    exact hsender

theorem Undone.putBack (h : Undone c w v) (hid : c.id = id) : PutBack id c w v := by
  rcases h.store with ⟨t, hstore⟩
  refine ⟨⟨t, ?_⟩, fun other hother => ?_, ?_, ?_, ?_, h.sender⟩
  · rw [hstore]
    exact (lookUp_putIn w { c with updatedAt := t } id).trans (if_pos hid)
  · rw [hstore]
    exact (lookUp_putIn w { c with updatedAt := t } other).trans
      (if_neg fun heq => hother (heq.symm.trans hid))
  all_goals rw [hstore]; rfl

/-- With rules that are compiled, a dispatch of a pending campaign fails in one of two ways
    before its records are stored: the store has failed and the campaign is put back, or the
    rules mix kinds of time. -/
theorem ends_prepare_of_compiled {t : Timestamp} {p : Predicate} {rules : List Rule}
    {now : Option Timestamp} (hclock : inUtc w.clock = .ok t)
    (hp : Rule.compile rules (now.getD t) = .ok p)
    (hc : lookUp Campaign.id id w.store.tables.campaigns = some c) (hpending : c.status = .pending)
    (huncounted : c.outcomeCount = 0) (template : Text) :
    Ends (prepare id rules template now) w
      (fun _ v => ∃ d, lookUp Campaign.id id v.store.tables.campaigns = some d)
      fun f v => ((∃ reason, f = .resolverUnavailable reason ∨ f = .storeUnavailable reason) ∧
        Undone c w v) ∨ Stuck c rules now f w v := by
  have hid : c.id = id := key_of_lookUp hc
  have htime := World.time_of_inUtc hclock
  rw [prepare, ends_bind, ends_compileAt_of_ok hclock hp, ends_bind,
    ends_claim_of_pending hc hpending]
  have hheld : Held id { c with status := .sending, updatedAt := w.time }
      (putIn w { c with status := .sending, updatedAt := w.time }) :=
    ⟨(lookUp_putIn w _ id).trans (if_pos hid), rfl, huncounted⟩
  refine ((ends_resolveOrRelease_of_held hheld p).mono (fun _ _ h => h) ?_).bind ?_
  · rintro f v ⟨e, hfails, ⟨⟨reason, hf⟩, hput⟩ | ⟨rfl, hother, hsame⟩⟩
    · exact Or.inl ⟨⟨reason, Or.inl hf⟩, undone_of_core hpending rfl rfl hput⟩
    · -- The store has not failed, so it is a customer that cannot be matched.
      rcases Memory.findMatching_error hfails with hstore | ⟨d, hd, hmatches⟩
      · cases hother.symm.trans hstore
      · rcases Rule.mixes_of_matches_error hp hmatches with ⟨hf, r, hr, hmixes⟩
        rw [← htime] at hmixes
        exact Or.inr ⟨hf, ⟨r, hr, d, hd, hmixes⟩, hsame⟩
  · rintro customers w₁ ⟨-, h₁⟩
    refine ((ends_of_quiet (noteChange _ customers.length) w₁).mono (fun _ _ h => h)
      fun _ _ h => h.elim).bind fun _ w₂ h₂ => ?_
    have h₂ := World.eq_of_core (h₂.trans h₁)
    have hclock₂ : inUtc w₂.clock = .ok t := by rw [h₂]; exact hclock
    refine ((ends_draft_of_clock id template customers hclock₂).mono (fun _ _ h => h)
      fun _ _ h => h.elim).bind ?_
    rintro records w₃ ⟨h₃, -⟩
    have hstore : w₃.store =
        (putIn w { c with status := .sending, updatedAt := w.time }).store := by
      rw [h₃, h₂]
    have hheld₃ : Held id { c with status := .sending, updatedAt := w.time } w₃ := by
      refine ⟨?_, rfl, huncounted⟩
      rw [hstore]
      exact hheld.stored
    refine ((ends_storeOrRelease_of_held hheld₃ records).mono (fun _ _ h => h) ?_).bind ?_
    · rintro f v ⟨⟨reason, -, hf⟩, hput⟩
      refine Or.inl ⟨⟨reason, Or.inr hf⟩, undone_of_core hpending hstore ?_ hput⟩
      rw [h₃, h₂]
      rfl
    · rintro stored w₄ ⟨-, h₄⟩
      refine ⟨{ c with status := .sending, updatedAt := w.time }, ?_⟩
      rw [World.eq_of_core h₄]
      exact hheld₃.stored

/-- Before its records are stored, a dispatch of a pending campaign fails in one of two
    ways: the campaign is put back, or the rules mix kinds of time. -/
theorem ends_prepare_of_pending (hc : lookUp Campaign.id id w.store.tables.campaigns = some c)
    (hpending : c.status = .pending) (huncounted : c.outcomeCount = 0) (rules : List Rule)
    (template : Text) (now : Option Timestamp) :
    Ends (prepare id rules template now) w (fun _ _ => True) fun f v =>
      PutBack id c w v ∨ Stuck c rules now f w v := by
  cases hclock : inUtc w.clock with
  | error f =>
      rw [prepare, ends_bind, ends_compileAt_of_clock hclock]
      exact Or.inl (.refl hc)
  | ok t =>
      cases hp : Rule.compile rules (now.getD t) with
      | error f =>
          rw [prepare, ends_bind, ends_compileAt_of_error hclock hp]
          exact Or.inl (.refl hc)
      | ok p =>
          refine (ends_prepare_of_compiled hclock hp hc hpending huncounted template).mono
            (fun _ _ _ => trivial) fun f v h => h.imp_left fun hundone => ?_
          exact hundone.2.putBack (key_of_lookUp hc)

/-- What was put back can be started. -/
theorem PutBack.startable (h : PutBack id c w v) (hpending : c.status = .pending)
    (huncounted : c.outcomeCount = 0) : Startable id v.store.tables := by
  intro u rules template now p htables horder hp hkinds
  rcases h.campaign with ⟨t, hstored⟩
  rw [← htables] at hstored hkinds
  have hkeep : ∀ d ∈ u.store.tables.customers, p.matches d = .ok (Rule.satisfied d p) := by
    intro d hd
    rcases Rule.exists_matches hp fun r hr => hkinds r hr d hd with ⟨holds, hholds⟩
    rw [Rule.satisfied, hholds]
  have hends := ends_start_of_inOrder horder hstored hpending huncounted template hp
    (Memory.findMatching_of_ok horder.available hkeep)
  rcases exists_of_ends hends with ⟨records, u', hstart, -⟩
  exact ⟨records, u', hstart⟩

/-- A dispatch of a pending campaign that fails before its records are stored fails as a
    whole. The campaign is put back and can be started, unless a rule on the last visit
    sets an aware time against a naive one; then it stays claimed. -/
theorem failed_dispatch_puts_back {w : World Memory} {id : Uuid} {c : Campaign}
    (hc : lookUp Campaign.id id w.store.tables.campaigns = some c) (hpending : c.status = .pending)
    (huncounted : c.outcomeCount = 0) (rules : List Rule) (template : Text)
    (now : Option Timestamp) {f : Fault} {v : World Memory}
    (hfails : prepare id rules template now w = .error f v) :
    start id rules template now w = .error f v ∧
      (PutBack id c w v ∧ Startable id v.store.tables ∨ Stuck c rules now f w v) := by
  refine ⟨?_, ?_⟩
  · rw [start_eq]
    change EStateM.bind _ _ w = _
    rw [EStateM.bind, hfails]
  · have hends := ends_prepare_of_pending hc hpending huncounted rules template now
    unfold Ends at hends
    rw [hfails] at hends
    exact hends.imp_left fun h => ⟨h, h.startable hpending huncounted⟩

/-! ## Example -/

/-- Noon on a day in summer. -/
def noon : Timestamp := ⟨⟨2024, 6, 1⟩, 12 * 3600 * 1000000, some 0⟩

/-- A campaign for everybody. -/
def sampleCampaign : Campaign := .create (Uuid.ofNat 2) "Spring" "Hello" [] 1 noon

/-- A world with a customer and a pending campaign. -/
def sampleWorld : World Memory :=
  let ann : Customer :=
    ⟨Uuid.ofNat 1, "Ann", "ann@example.org", .null, Double.zero, 0, noon, noon⟩
  { World.blank noon with store := ⟨⟨[ann], [sampleCampaign], [], []⟩, true, none⟩, drawn := 3 }

/-- The same world when the store takes no batches. -/
def refusingWorld : World Memory :=
  { sampleWorld with store := { sampleWorld.store with batchFault := some "connection reset" } }

/-- The dispatch fails there, and the campaign is put back. -/
theorem failed_dispatch_puts_back_in_sample :
    let id := Uuid.ofNat 2
    ∃ f v, lookUp Campaign.id id refusingWorld.store.tables.campaigns = some sampleCampaign ∧
      sampleCampaign.status = .pending ∧ sampleCampaign.outcomeCount = 0 ∧
      prepare id [] "Hello" none refusingWorld = .error f v ∧
      start id [] "Hello" none refusingWorld = .error f v ∧
      (PutBack id sampleCampaign refusingWorld v ∧ Startable id v.store.tables ∨
        Stuck sampleCampaign [] none f refusingWorld v) := by
  intro id
  have hfails : Ends (prepare id [] "Hello" none) refusingWorld (fun _ _ => False)
      fun _ _ => True := by
    decide +kernel
  rcases failed_of_ends hfails with ⟨f, v, hfails, -⟩
  have hc : lookUp Campaign.id id refusingWorld.store.tables.campaigns = some sampleCampaign := by
    decide +kernel
  exact ⟨f, v, hc, rfl, rfl, hfails, failed_dispatch_puts_back hc rfl rfl [] "Hello" none hfails⟩

/-- A rule on the last visit with a naive time: the dispatch fails, and the campaign stays
    claimed without records. It cannot be started any more. -/
theorem stuck_by_naive_time :
    let id := Uuid.ofNat 2
    let stuck (v : World Memory) : Prop :=
      v.store.tables.campaigns.map Campaign.status = [.sending] ∧ v.store.tables.records = []
    Ends (start id [⟨.lastVisit, .greater, "7", .and⟩] "Hello" (some noon.naive)) sampleWorld
      (fun _ _ => False) fun f v => f.kind = "TypeError" ∧ stuck v ∧
        Ends (start id [] "Hello" none) v (fun _ _ => False) fun f u =>
          f.kind = "CampaignAlreadyStartedError" ∧ stuck u := by
  decide +kernel

end Dispatch

end Outreach
