import Outreach.Proofs.Backend.Grows
import Outreach.Proofs.Customer.Validation
import Outreach.Proofs.Run.Ledger
import Outreach.Service.Dispatch

/-!
# The Course of a Dispatch

A dispatch has two parts. Up to the point where its records are stored it can be taken
back; after that messages go out and nothing is taken back any more. Each piece of it
is described here in full, by what it answers, what it leaves behind and how it fails,
once the campaign was found pending.

Log and metrics are written all along and never read. A world is therefore followed by
its core, which has neither.

## Main definitions

* `World.core`: A world apart from its log and metrics.
* `World.InOrder`: A world in which nothing stands in the way of a dispatch.
* `Dispatch.prepare`, `Dispatch.deliver`: The two parts of a dispatch.
* `Dispatch.Held`: A campaign that is claimed.

## Theorems

* `Dispatch.start_eq`: A dispatch is its two parts.
* `Dispatch.ends_resolveOrRelease_of_held`, `Dispatch.ends_storeOrRelease_of_held`:
  How the pieces end that put a campaign back.
* `Dispatch.ends_start_of_inOrder`: A dispatch of a pending campaign succeeds when
  everything is in order.
-/

namespace Outreach

open Outreach.Action

/-! ## Worlds apart from what is only written -/

/-- A world apart from its log and metrics. -/
def World.core {σ : Type} (w : World σ) : World σ :=
  { w with log := [], metrics := Metrics.empty }

/-- Worlds with the same core agree in everything but log and metrics. -/
theorem World.eq_of_core {σ : Type} {w v : World σ} (h : v.core = w.core) :
    v = { w with log := v.log, metrics := v.metrics } := by
  simp only [core, World.mk.injEq, true_and] at h
  rcases v with ⟨store, clock, supply, drawn, metrics, fields, log, sender⟩
  rcases h with ⟨rfl, rfl, rfl, rfl, rfl, rfl⟩
  rfl

/-- The time on a clock that can be read. -/
theorem World.time_of_inUtc {σ : Type} {w : World σ} {t : Timestamp} (h : inUtc w.clock = .ok t) :
    w.time = t := by
  rw [time, inUtc_eq_ok_iff.1 h]
  rfl

/-- A world in which nothing stands in the way of a dispatch: the clock shows universal
    time, the store answers and takes batches, and the sender takes messages. -/
structure World.InOrder (w : World Memory) : Prop where
  clock : inUtc w.clock = .ok w.clock
  available : w.store.available = true
  batches : w.store.batchFault = none
  bound : w.sender.bound = true

/-- What only writes to log and metrics leaves the core alone. -/
theorem Action.ends_of_quiet {σ : Type} (x : Action σ Unit) [Quiet x] (w : World σ) :
    Ends x w (fun _ v => v.core = w.core) fun _ _ => False := by
  rcases Quiet.ends (x := x) w with ⟨log, metrics, hx⟩
  rw [Ends, hx]
  rfl

section

variable {σ : Type} {w : World σ} {rules : List Rule} {now : Option Timestamp}
  {ok : Predicate → World σ → Prop} {bad : Fault → World σ → Prop}

/-- Rules are compiled at the given time, or at that on the clock. -/
theorem ends_compileAt_of_ok {t : Timestamp} {p : Predicate} (hclock : inUtc w.clock = .ok t)
    (hp : Rule.compile rules (now.getD t) = .ok p) :
    Ends (compileAt rules now) w ok bad ↔ ok p w := by
  simp only [compileAt, ends_bind, ends_now, hclock, ends_ofExcept, Except.ok.injEq,
    forall_eq', reduceCtorEq, false_implies, implies_true, and_true, hp]

/-- They fail with a value that cannot be read. -/
theorem ends_compileAt_of_error {t : Timestamp} {f : Fault} (hclock : inUtc w.clock = .ok t)
    (hf : Rule.compile rules (now.getD t) = .error f) :
    Ends (compileAt rules now) w ok bad ↔ bad f w := by
  simp only [compileAt, ends_bind, ends_now, hclock, ends_ofExcept, Except.ok.injEq,
    forall_eq', reduceCtorEq, false_implies, implies_true, true_and, and_true, hf,
    Except.error.injEq]

/-- So they do with a clock that cannot be read, whatever the given time. -/
theorem ends_compileAt_of_clock {f : Fault} (hclock : inUtc w.clock = .error f) :
    Ends (compileAt rules now) w ok bad ↔ bad f w := by
  simp only [compileAt, ends_bind, ends_now, hclock, reduceCtorEq, false_implies, implies_true,
    true_and, Except.error.injEq, forall_eq']

end

namespace Dispatch

/-! ## The two parts -/

section

variable {σ : Type} [Repository σ]

/-- What a dispatch does until its records are stored: the recipients and the records. -/
def prepare (id : Uuid) (rules : List Rule) (template : Text) (now : Option Timestamp) :
    Action σ (List Customer × List DeliveryRecord) := do
  let p ← compileAt rules now
  let campaign ← claim id
  let customers ← resolveOrRelease id p
  noteChange campaign customers.length
  let records ← draft id template customers
  let stored ← storeOrRelease id records
  return (customers, stored)

/-- What it does with stored records. -/
def deliver (id : Uuid) (customers : List Customer) (records : List DeliveryRecord) :
    Action σ (List DeliveryRecord) := do
  announce id records.length
  handOver (records.zip customers)
  let completed ← unitOfWork (Repository.completeIfExhausted id)
  noteCompletion id completed
  return records

/-- A dispatch is its two parts. -/
theorem start_eq (id : Uuid) (rules : List Rule) (template : Text) (now : Option Timestamp) :
    (start id rules template now : Action σ (List DeliveryRecord)) =
      prepare id rules template now >>= fun x => deliver id x.1 x.2 := by
  simp only [start, prepare, deliver, bind_assoc, pure_bind]

end

/-! ## The pieces -/

variable {w : World Memory} {id : Uuid} {c : Campaign}

/-- A campaign that is claimed and has no outcomes. -/
structure Held (id : Uuid) (c : Campaign) (w : World Memory) : Prop where
  stored : lookUp Campaign.id id w.store.tables.campaigns = some c
  sending : c.status = .sending
  uncounted : c.outcomeCount = 0

/-- A world in which a campaign was stored. -/
def putIn (w : World Memory) (c : Campaign) : World Memory :=
  { w with store := w.store.putCampaign c }

/-- A world in which a batch of records was stored. -/
def putBatch (w : World Memory) (records : List DeliveryRecord) : World Memory :=
  { w with store := w.store.withTables fun t => { t with
      records := records.foldl (fun xs r => upsert DeliveryRecord.id r xs) t.records } }

theorem core_putIn (w : World Memory) (c : Campaign) : (putIn w c).core = putIn w.core c :=
  rfl

theorem lookUp_putIn (w : World Memory) (c : Campaign) (id : Uuid) :
    lookUp Campaign.id id (putIn w c).store.tables.campaigns =
      if c.id = id then some c else lookUp Campaign.id id w.store.tables.campaigns :=
  lookUp_upsert id c _

/-- A pending campaign is claimed. -/
theorem ends_claim_of_pending {ok : Campaign → World Memory → Prop}
    {bad : Fault → World Memory → Prop}
    (hc : lookUp Campaign.id id w.store.tables.campaigns = some c) (hp : c.status = .pending) :
    Ends (claim id) w ok bad ↔
      ok { c with status := .sending, updatedAt := w.time }
        (putIn w { c with status := .sending, updatedAt := w.time }) := by
  simp only [claim, mark, Memory.ends_unitOfWork, ends_bind, ends_capture, Repository.markSending]
  rw [Memory.ends_change_of_ok (by rw [Memory.markSending_eq, hc]; exact if_pos hp)]
  rfl

/-- A campaign that is held is put back. -/
theorem ends_release_of_held {ok : Unit → World Memory → Prop} {bad : Fault → World Memory → Prop}
    (h : Held id c w) :
    Ends (release id) w ok bad ↔
      ok () (putIn w { c with status := .pending, updatedAt := w.time }) := by
  simp only [release, Memory.ends_unitOfWork, Repository.releaseToPending]
  rw [Memory.ends_change_of_ok
    (by simp only [Memory.releaseToPending_eq, h.stored, h.sending, h.uncounted]; rfl)]
  rfl

/-- An audience is resolved, or the campaign is put back. Only a fault that is not the
    store's leaves it held. -/
theorem ends_resolveOrRelease_of_held (h : Held id c w) (p : Predicate) :
    Ends (resolveOrRelease id p) w
      (fun customers v => w.store.findMatching p = .ok customers ∧ v.core = w.core)
      fun f v => ∃ e, w.store.findMatching p = .error e ∧
        ((∃ reason, f = .resolverUnavailable reason) ∧
            v.core = (putIn w { c with status := .pending, updatedAt := w.time }).core ∨
          f = e ∧ e.isRepository = false ∧ v.core = w.core) := by
  -- A line in the log does not keep the campaign from being put back.
  have hheld : ∀ log, Held id c { w with log := log } :=
    fun log => ⟨h.stored, h.sending, h.uncounted⟩
  simp only [resolveOrRelease, tryResolve, Audience.resolve, Audience.query, ends_bind,
    ends_capture, Memory.ends_unitOfWork, Repository.findMatching, Memory.ends_ask, ends_pure,
    ends_note, ends_ite, ends_throw]
  refine ⟨fun customers hfound => ⟨hfound, rfl⟩, fun e hfails => ⟨fun _ => ?_, fun hother => ?_⟩⟩
  · rw [ends_release_of_held (hheld _)]
    exact ⟨e, hfails, Or.inl ⟨⟨_, rfl⟩, rfl⟩⟩
  rw [Bool.not_eq_true] at hother
  cases e with
  | resolverUnavailable reason =>
      simp only [ends_bind, ends_note, ends_pure, ends_throw]
      rw [ends_release_of_held (hheld _)]
      exact ⟨_, hfails, Or.inl ⟨⟨reason, rfl⟩, rfl⟩⟩
  | _ => exact ⟨_, hfails, Or.inr ⟨rfl, hother, rfl⟩⟩

/-- The record that is drafted for a customer. -/
def recordFor (campaignId : Uuid) (template : Text) (now : Timestamp) (id : Uuid)
    (c : Customer) : DeliveryRecord :=
  ⟨id, campaignId, c.id, c.email, render template c.name, .pending, now, now⟩

/-- The records that are drafted for some customers, under the next identifiers. -/
def batchFor (w : World Memory) (campaignId : Uuid) (template : Text)
    (customers : List Customer) : List DeliveryRecord :=
  ((w.ledger.next customers.length).zip customers).map fun x =>
    recordFor campaignId template w.time x.1 x.2

theorem ids_batchFor (w : World Memory) (campaignId : Uuid) (template : Text)
    (customers : List Customer) :
    (batchFor w campaignId template customers).map DeliveryRecord.id =
      w.ledger.next customers.length := by
  rw [batchFor, List.map_map]
  exact List.map_fst_zip (by rw [Ledger.next, List.length_map, List.length_range'])

theorem length_batchFor (w : World Memory) (campaignId : Uuid) (template : Text)
    (customers : List Customer) :
    (batchFor w campaignId template customers).length = customers.length := by
  have hlength := congrArg List.length (ids_batchFor w campaignId template customers)
  rwa [List.length_map, Ledger.next, List.length_map, List.length_range'] at hlength

theorem campaignId_of_mem_batchFor {r : DeliveryRecord} {template : Text}
    {customers : List Customer} (h : r ∈ batchFor w id template customers) :
    r.campaignId = id := by
  rcases List.mem_map.1 h with ⟨_, _, rfl⟩
  rfl

/-- With a clock that can be read, records are drafted without fail. -/
theorem ends_draft_of_clock {t : Timestamp} (id : Uuid) (template : Text)
    (customers : List Customer) : ∀ {w : World Memory}, inUtc w.clock = .ok t →
    Ends (draft id template customers) w
      (fun records v => v = { w with drawn := w.drawn + customers.length } ∧
        records = batchFor w id template customers)
      fun _ _ => False := by
  induction customers with
  | nil => exact fun _ => ⟨rfl, rfl⟩
  | cons customer rest ih =>
      intro w hclock
      simp only [draft, List.mapM_cons, draftOne, ends_bind, ends_freshId, ends_now, ends_pure,
        hclock, Except.ok.injEq, forall_eq', reduceCtorEq, false_implies, implies_true, and_true]
      refine (ih (w := { w with drawn := w.drawn + 1 }) hclock).mono ?_ fun _ _ h => h
      rintro records v ⟨rfl, rfl⟩
      refine ⟨?_, ?_⟩
      · rw [List.length_cons, Nat.add_assoc, Nat.add_comm 1]
      · rw [← World.time_of_inUtc hclock]
        rfl

/-- A batch is stored, or the campaign is put back. -/
theorem ends_storeOrRelease_of_held (h : Held id c w) (records : List DeliveryRecord) :
    Ends (storeOrRelease id records) w
      (fun stored v => stored = records ∧ v.core = (putBatch w records).core)
      fun f v => (∃ reason, w.store.batchFault = some reason ∧ f = .storeUnavailable reason) ∧
        v.core = (putIn w { c with status := .pending, updatedAt := w.time }).core := by
  simp only [storeOrRelease, tryStore, ends_bind, ends_capture, Memory.ends_unitOfWork,
    Repository.saveRecords]
  cases hb : w.store.batchFault with
  | none =>
      rw [Memory.ends_change_of_ok (by simp only [Memory.saveRecords_eq, hb]; rfl)]
      exact ⟨rfl, rfl⟩
  | some reason =>
      rw [Memory.ends_change_of_error (by simp only [Memory.saveRecords_eq, hb]; rfl)]
      simp only [Fault.isRepository, if_true, ends_bind, ends_note, ends_pure]
      have hheld : ∀ log, Held id c { w with log := log } :=
        fun log => ⟨h.stored, h.sending, h.uncounted⟩
      rw [ends_release_of_held (hheld _)]
      exact ⟨⟨reason, rfl, rfl⟩, rfl⟩

/-- The messages of a batch as they are handed over. -/
def handovers (w : World Memory) (pairs : List (DeliveryRecord × Customer)) : List Handover :=
  pairs.map fun x => ⟨x.1, x.2, w.fields⟩

/-- A world in which the messages of a batch were handed over. -/
def handed (w : World Memory) (pairs : List (DeliveryRecord × Customer)) : World Memory :=
  { w with sender := { w.sender with handed := w.sender.handed ++ handovers w pairs } }

theorem core_handed (w : World Memory) (pairs : List (DeliveryRecord × Customer)) :
    (handed w pairs).core = handed w.core pairs :=
  rfl

/-- A bound sender takes a message. -/
theorem ends_send_of_bound (hbound : w.sender.bound = true) (r : DeliveryRecord) (customer : Customer)
    {ok : Unit → World Memory → Prop} {bad : Fault → World Memory → Prop} :
    Ends (send r customer) w ok bad ↔ ok () (handed w [(r, customer)]) := by
  rw [send, ends_bind, ends_get, if_pos hbound, ends_set]
  rfl

/-- A bound sender takes every message, in order. -/
theorem ends_handOver_of_bound (pairs : List (DeliveryRecord × Customer)) :
    ∀ {w : World Memory}, w.sender.bound = true →
      Ends (handOver pairs) w (fun _ v => v = handed w pairs) fun _ _ => False := by
  induction pairs with
  | nil =>
      intro w _
      simp only [handOver, ends_pure, handed, handovers, List.map_nil, List.append_nil]
  | cons pair rest ih =>
      intro w hbound
      rw [handOver, ends_bind, ends_send_of_bound hbound]
      refine (ih (w := handed w [pair]) hbound).mono ?_ fun _ _ h => h
      rintro _ v rfl
      simp only [handed, handovers, List.map_cons, List.map_nil, List.append_assoc,
        List.singleton_append]

/-- Stored records of a stored campaign are delivered by a bound sender. They are handed
    over in order, and the campaign is completed if it is exhausted. -/
theorem ends_deliver_of_bound (hc : lookUp Campaign.id id w.store.tables.campaigns = some c)
    (hbound : w.sender.bound = true) (customers : List Customer) (records : List DeliveryRecord) :
    Ends (deliver id customers records) w
      (fun sent v => sent = records ∧ v.core =
        (putIn (handed w (records.zip customers)) (c.completeIfExhausted w.time).1).core)
      fun _ _ => False := by
  refine (ends_of_quiet (announce id records.length) w).bind fun _ w₁ h₁ => ?_
  have h₁ := World.eq_of_core h₁
  have hbound₁ : w₁.sender.bound = true := by rw [h₁]; exact hbound
  refine (ends_handOver_of_bound _ hbound₁).bind fun _ w₂ h₂ => ?_
  have hstored : lookUp Campaign.id id w₂.store.tables.campaigns = some c := by
    rw [h₂, h₁]
    exact hc
  have hcomplete : Ends (unitOfWork (Repository.completeIfExhausted id)) w₂
      (fun _ v => v = putIn w₂ (c.completeIfExhausted w₂.time).1) fun _ _ => False := by
    simp only [Memory.ends_unitOfWork, Repository.completeIfExhausted]
    rw [Memory.ends_change_of_ok (by simp only [Memory.completeIfExhausted_eq, hstored]; rfl)]
    rfl
  refine hcomplete.bind fun completed w₃ h₃ => ?_
  refine (ends_of_quiet (noteCompletion id completed) w₃).bind fun _ w₄ h₄ => ?_
  refine ⟨rfl, h₄.trans ?_⟩
  rw [h₃, h₂, h₁]
  rfl

/-! ## When everything is in order -/

variable {rules : List Rule} {now : Option Timestamp} {p : Predicate} {customers : List Customer}

/-- When everything is in order, a batch is drafted for the customers who are found and
    stored, and the campaign is held. -/
theorem ends_prepare_of_inOrder (hw : w.InOrder)
    (hc : lookUp Campaign.id id w.store.tables.campaigns = some c) (hpending : c.status = .pending)
    (huncounted : c.outcomeCount = 0) (template : Text)
    (hp : Rule.compile rules (now.getD w.clock) = .ok p)
    (hfound : w.store.findMatching p = .ok customers) :
    Ends (prepare id rules template now) w
      (fun x v => x.1 = customers ∧ x.2 = batchFor w id template customers ∧
        v.core = (putBatch (putIn { w with drawn := w.drawn + customers.length }
          { c with status := .sending, updatedAt := w.time }) x.2).core)
      fun _ _ => False := by
  have hid : c.id = id := key_of_lookUp hc
  rw [prepare, ends_bind, ends_compileAt_of_ok hw.clock hp, ends_bind,
    ends_claim_of_pending hc hpending]
  have hheld : Held id { c with status := .sending, updatedAt := w.time }
      (putIn w { c with status := .sending, updatedAt := w.time }) :=
    ⟨(lookUp_putIn w _ id).trans (if_pos hid), rfl, huncounted⟩
  generalize ({ c with status := .sending, updatedAt := w.time } : Campaign) = held at hheld ⊢
  -- The claim has not changed whom the query finds.
  have hfound : (putIn w held).store.findMatching p = .ok customers := hfound
  have hresolve := (ends_resolveOrRelease_of_held hheld p).mono
    (fun found v h => (⟨Except.ok.inj (h.1.symm.trans hfound), h.2⟩ :
      found = customers ∧ v.core = (putIn w held).core))
    (fun f v h => (h.elim fun e he => nomatch hfound.symm.trans he.1 : False))
  refine hresolve.bind ?_
  rintro _ w₁ ⟨rfl, h₁⟩
  refine (ends_of_quiet (noteChange held _) w₁).bind fun _ w₂ h₂ => ?_
  have h₂ := World.eq_of_core (h₂.trans h₁)
  have hclock₂ : inUtc w₂.clock = .ok w.clock := by rw [h₂]; exact hw.clock
  refine (ends_draft_of_clock id template _ hclock₂).bind fun records w₃ h₃ => ?_
  rcases h₃ with ⟨h₃, hbatch⟩
  have hheld₃ : Held id held w₃ := by
    rw [h₃, h₂]
    exact ⟨hheld.stored, hheld.sending, hheld.uncounted⟩
  have hbatches : w₃.store.batchFault = none := by
    rw [h₃, h₂]
    exact hw.batches
  refine ((ends_storeOrRelease_of_held hheld₃ records).mono (fun _ _ h => h)
    (fun _ _ h => h.1.elim fun _ hb => nomatch hbatches.symm.trans hb.1)).bind ?_
  rintro _ w₄ ⟨rfl, h₄⟩
  refine ⟨rfl, ?_, ?_⟩
  · rw [hbatch, h₂]
    rfl
  · rw [h₄, h₃, h₂]
    rfl

/-- The world after a dispatch that found some customers and drafted a batch for them. -/
def dispatched (w : World Memory) (c : Campaign) (customers : List Customer)
    (records : List DeliveryRecord) : World Memory :=
  putIn (handed (putBatch { w with drawn := w.drawn + customers.length } records)
      (records.zip customers))
    { c with
      status := if c.audienceSize ≤ 0 then .completed else .sending
      updatedAt := w.time }

/-- Storing a campaign twice is storing it as it is at last. -/
theorem putIn_putIn (w : World Memory) {c c' : Campaign} (h : c'.id = c.id) :
    putIn (putIn w c) c' = putIn w c' := by
  simp only [putIn, Memory.putCampaign, Memory.withTables, upsert_upsert h]

/-- When everything is in order, a dispatch of a pending campaign succeeds. It drafts a
    batch for the customers whom the audience query finds, stores it and hands it over, and
    completes the campaign if its audience has no size. -/
theorem ends_start_of_inOrder (hw : w.InOrder)
    (hc : lookUp Campaign.id id w.store.tables.campaigns = some c) (hpending : c.status = .pending)
    (huncounted : c.outcomeCount = 0) (template : Text)
    (hp : Rule.compile rules (now.getD w.clock) = .ok p)
    (hfound : w.store.findMatching p = .ok customers) :
    Ends (start id rules template now) w
      (fun records v => records = batchFor w id template customers ∧
        v.core = (dispatched w c customers records).core)
      fun _ _ => False := by
  have hid : c.id = id := key_of_lookUp hc
  rw [start_eq]
  refine (ends_prepare_of_inOrder hw hc hpending huncounted template hp hfound).bind ?_
  rintro ⟨_, records⟩ v ⟨rfl, hbatch, hcore⟩
  have hv := World.eq_of_core hcore
  have hheld : lookUp Campaign.id id v.store.tables.campaigns =
      some { c with status := .sending, updatedAt := w.time } := by
    rw [hv]
    exact (lookUp_putIn w _ id).trans (if_pos hid)
  have hbound : v.sender.bound = true := by
    rw [hv]
    exact hw.bound
  refine (ends_deliver_of_bound hheld hbound _ records).mono ?_ fun _ _ h => h
  rintro sent u ⟨rfl, hu⟩
  refine ⟨hbatch, ?_⟩
  -- Neither the batch nor its messages touch the campaign, so it was stored twice.
  have hcompleted : (({ c with status := .sending, updatedAt := w.time } : Campaign)
      |>.completeIfExhausted v.time).1 =
        { c with
          status := if c.audienceSize ≤ 0 then .completed else .sending
          updatedAt := w.time } := by
    have htime : v.time = w.time := by
      rw [hv]
      rfl
    have hexhausted : ({ c with status := .sending, updatedAt := w.time } : Campaign).isExhausted =
        decide (c.audienceSize ≤ 0) := congrArg (fun n => decide (c.audienceSize ≤ n)) huncounted
    rw [htime, Campaign.completeIfExhausted, hexhausted]
    by_cases hsize : c.audienceSize ≤ 0
    · simp only [hsize, decide_true, and_self, if_true]
    · simp only [hsize, decide_false, Bool.false_eq_true, and_false, if_false]
  rw [hu, hcompleted, core_putIn, core_handed, hcore, ← core_handed, ← core_putIn]
  exact congrArg World.core (putIn_putIn
    (handed (putBatch { w with drawn := w.drawn + _ } sent) (sent.zip _))
    (c := { c with status := .sending, updatedAt := w.time }) rfl)

end Dispatch

end Outreach
