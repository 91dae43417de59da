import Outreach.Proofs.Run.Invariant.Batches

/-!
# Who Holds a Campaign

A campaign that is not pending is either held by the one dispatch that claimed
it, or its batch has been stored; never by two, and never both. The claim comes
into being with the step that takes a pending campaign, goes back with the step
that puts it back, and for good with the step that stores the batch.

## Main definitions

* `DeliveryRecord.recipient`: The campaign and the customer of a record.
* `Ledger.Started`: A campaign is stored and not pending.
* `Run.Event.dispatched`, `Run.Board.dispatched`: The campaigns whose batch has
  been stored.
* `Run.Board.Dispatched`: Records belong to these campaigns, each for another
  customer.

## Theorems

* `Run.Task.Effect.claims`: What every step does to claims.
* `Run.Board.Reachable.claims`: No campaign is held twice.
* `Run.Board.Reachable.dispatched`: Records belong to dispatched campaigns on
  every board.
-/

namespace Outreach

namespace Campaign

variable {c after : Campaign} {outcome : DeliveryStatus} {update : CounterUpdate} {now : Timestamp}

/-- Only a campaign that is being sent is completed. -/
theorem completeIfExhausted_status :
    (c.completeIfExhausted now).1.status = c.status ∨
      (c.completeIfExhausted now).1.status = .completed := by
  by_cases h : c.status = .sending ∧ c.audienceSize ≤ c.outcomeCount
  · rw [completeIfExhausted_of_open now h.1 h.2]
    exact Or.inr rfl
  · rw [completeIfExhausted_of_not now h]
    exact Or.inl rfl

theorem recordOutcome_status (h : c.recordOutcome outcome now = .ok (after, update)) :
    after.status = c.status ∨ after.status = .completed := by
  have ho := isOutcome_of_recordOutcome h
  by_cases hopen : c.status = .sending ∧ c.outcomeCount < c.audienceSize
  · rw [recordOutcome_of_open now ho hopen.1 hopen.2, Except.ok.injEq, Prod.mk.injEq] at h
    have hstatus : (c.count outcome now).status = c.status := by cases outcome <;> rfl
    rw [← h.1, ← hstatus]
    exact completeIfExhausted_status
  · rw [recordOutcome_of_not now ho hopen, Except.ok.injEq, Prod.mk.injEq] at h
    exact Or.inl (h.1 ▸ rfl)

end Campaign

/-- The campaign and the customer that a record is for. -/
def DeliveryRecord.recipient (r : DeliveryRecord) : Uuid × Uuid :=
  (r.campaignId, r.customerId)

namespace Ledger

/-- A campaign is stored and not pending. -/
def Started (k : Ledger) (id : Uuid) : Prop :=
  ∃ c, k.campaign? id = some c ∧ c.status ≠ .pending

variable {k : Ledger} {id : Uuid} {c : Campaign}

/-- Storing a campaign leaves the others as they were. -/
theorem Started.putCampaign (h : k.Started id) (hc : c.id = id → c.status ≠ .pending) :
    (k.putCampaign c).Started id := by
  rcases h with ⟨d, hd, hstatus⟩
  rw [Started, campaign?_putCampaign]
  by_cases hid : c.id = id
  · rw [if_pos hid]
    exact ⟨c, rfl, hc hid⟩
  · rw [if_neg hid]
    exact ⟨d, hd, hstatus⟩

/-- Neither does the campaign itself become pending by being completed. -/
theorem Started.putCampaign_of_status {u : Uuid} {c' : Campaign} (h : k.Started id)
    (hstored : k.campaign? u = some c) (hid : c'.id = c.id)
    (hstatus : c'.status = c.status ∨ c'.status = .completed) : (k.putCampaign c').Started id := by
  refine h.putCampaign fun heq => ?_
  rcases hstatus with hstatus | hstatus
  · rcases h with ⟨d, hd, hne⟩
    rw [← heq, hid, id_of_campaign? hstored, hstored, Option.some.injEq] at hd
    rw [hstatus, hd]
    exact hne
  · rw [hstatus]
    simp only [ne_eq, reduceCtorEq, not_false_eq_true]

end Ledger

namespace Run

/-- The campaign whose batch is stored in a step. -/
def Event.dispatched (e : Event) : List Uuid :=
  e.stored?.toList.map Prod.fst

theorem StoredBy.mem_dispatched {n : Nat} {id : Uuid} {batch : List DeliveryRecord}
    {es : List Event} (h : StoredBy n id batch es) : id ∈ es.flatMap Event.dispatched := by
  rcases h with ⟨e, he, -, hstored⟩
  refine List.mem_flatMap.2 ⟨e, he, ?_⟩
  rw [Event.dispatched, hstored]
  exact List.mem_singleton_self _

namespace Task

variable {k k' : Ledger} {t t' : Task} {n : Nat}

theorem claims_of_dispatch {args : NewDispatch} {s : Dispatch.Stage}
    {p : Progress Dispatch.Stage (List DeliveryRecord)} (h : Dispatch.Effect args k s k' p) :
    Passes Ledger.Started k k' (claims (dispatch args (.underway s)))
      (claims (dispatch args p) ++
        Event.dispatched ⟨n, dispatch args (.underway s), dispatch args p⟩) := by
  cases h with
  | claimed now stored pending =>
      -- The campaign was pending, so the claim on it is fresh.
      have hne : CampaignStatus.sending ≠ .pending := by decide
      refine Passes.take [args.campaignId] (List.Subperm.refl _)
        (List.nodup_singleton _) ?_ fun id hid => hid.putCampaign fun _ => hne
      intro id hid
      rw [List.mem_singleton.1 hid]
      refine ⟨?_, _, (Ledger.campaign?_putCampaign _ _ _).trans
        (if_pos (Ledger.id_of_campaign? stored)), hne⟩
      rintro ⟨d, hd, hstatus⟩
      rw [stored, Option.some.injEq] at hd
      exact hstatus (hd ▸ pending)
  | released now stored sending none_counted =>
      -- The campaign is pending again, and the claim is given back for it.
      refine Passes.give fun id hne hid => hid.putCampaign fun heq => ?_
      have hkey := Ledger.id_of_campaign? stored
      exact absurd (heq.symm.trans hkey) hne
  | closed now stored =>
      exact .keep (List.Subperm.refl _) fun id hid => hid.putCampaign_of_status stored
        (Campaign.completeIfExhausted_keeps now).1 Campaign.completeIfExhausted_status
  | failed f m =>
      rw [Event.dispatched, Event.stored?_raised]
      exact .keep List.nil_subperm fun _ hid => hid
  | _ => exact .keep (List.Subperm.refl _) fun _ hid => hid

/-- A step takes a claim on a pending campaign only, and puts no campaign back
    but the one it holds. -/
theorem Effect.claims (h : t.Effect k k' t') (hapart : (t.reserved ++ k.identifiers).Nodup) :
    Passes Ledger.Started k k' t.claims (t'.claims ++ Event.dispatched ⟨n, t, t'⟩) := by
  cases h with
  | customer aside =>
      refine .keep (List.Subperm.refl _) fun id hid => ?_
      rw [Ledger.Started, Ledger.campaign?, aside.campaigns]
      exact hid
  | order aside =>
      refine .keep (List.Subperm.refl _) fun id hid => ?_
      rw [Ledger.Started, Ledger.campaign?, aside.campaigns]
      exact hid
  | campaign effect =>
      cases effect with
      -- A new campaign is pending, but it is none that was started.
      | stored =>
          refine .keep (List.Subperm.refl _) fun id hid => hid.putCampaign fun heq => ?_
          rcases hid with ⟨d, hd, -⟩
          rw [← heq, campaign?_of_storing hapart] at hd
          cases hd
      | _ => exact .keep (List.Subperm.refl _) fun _ hid => hid
  | dispatch effect => exact claims_of_dispatch effect
  | receipt effect =>
      cases effect with
      | counted now stored outcome =>
          exact .keep (List.Subperm.refl _) fun id hid => hid.putCampaign_of_status stored
            (Campaign.recordOutcome_keeps outcome).1 (Campaign.recordOutcome_status outcome)
      | _ => exact .keep (List.Subperm.refl _) fun _ hid => hid

/-- A record belongs to the campaign it belonged to, or was stored with the batch
    of its campaign. -/
theorem Effect.campaignId (h : t.Effect k k' t') (hapart : (t.reserved ++ k.identifiers).Nodup)
    (hsound : t.Sound k) {r : DeliveryRecord} (hr : r ∈ k'.tables.records) :
    (∃ r₀ ∈ k.tables.records, r₀.campaignId = r.campaignId) ∨
      r.campaignId ∈ Event.dispatched ⟨n, t, t'⟩ := by
  cases h with
  | customer aside => exact Or.inl ⟨r, aside.records ▸ hr, rfl⟩
  | order aside => exact Or.inl ⟨r, aside.records ▸ hr, rfl⟩
  | campaign effect => cases effect <;> exact Or.inl ⟨r, hr, rfl⟩
  | dispatch effect =>
      cases effect with
      | stored =>
          rw [(Ledger.identifiers_putBatch hapart).1] at hr
          rcases List.mem_append.1 hr with hold | hnew
          · exact Or.inl ⟨r, hold, rfl⟩
          · exact Or.inr (List.mem_singleton.2 (hsound.2 r hnew).1)
      | _ => exact Or.inl ⟨r, hr, rfl⟩
  | receipt effect =>
      cases effect with
      | settled now outcome stored pending =>
          rcases mem_upsert hr with heq | hold
          · exact Or.inl ⟨_, mem_of_lookUp stored, heq ▸ rfl⟩
          · exact Or.inl ⟨r, hold, rfl⟩
      | _ => exact Or.inl ⟨r, hr, rfl⟩

/-- No two records are for the same campaign and the same customer: a batch is
    addressed to different customers, and is the first one of its campaign. -/
theorem Effect.recipients (h : t.Effect k k' t') (hapart : (t.reserved ++ k.identifiers).Nodup)
    (hsound : t.Sound k) (hfirst : ∀ id ∈ t.claims, ∀ r ∈ k.tables.records, r.campaignId ≠ id)
    (hbefore : (k.tables.records.map DeliveryRecord.recipient).Nodup) :
    (k'.tables.records.map DeliveryRecord.recipient).Nodup := by
  cases h with
  | customer aside => exact aside.records ▸ hbefore
  | order aside => exact aside.records ▸ hbefore
  | campaign effect => cases effect <;> exact hbefore
  | dispatch effect =>
      cases effect with
      | @stored customers records =>
          -- The batch is for different customers, and its campaign has no records yet.
          have hbatch : (records.map DeliveryRecord.recipient).Nodup := by
            refine List.Nodup.of_map Prod.snd ?_
            rw [List.map_map]
            exact hsound.1
          rw [(Ledger.identifiers_putBatch hapart).1, List.map_append]
          refine hbefore.append hbatch fun x hold hnew => ?_
          rcases List.mem_map.1 hold with ⟨r, hr, rfl⟩
          rcases List.mem_map.1 hnew with ⟨r', hr', heq⟩
          have hcampaign : r'.campaignId = r.campaignId := congrArg Prod.fst heq
          exact hfirst _ List.mem_cons_self r hr (hcampaign.symm.trans (hsound.2 r' hr').1)
      | _ => exact hbefore
  | receipt effect =>
      cases effect with
      | settled now outcome stored pending =>
          rw [Ledger.map_putRecord DeliveryRecord.recipient stored]
          · exact hbefore
          · rfl
          · rfl
      | _ => exact hbefore

/-- Whether a campaign is completed at dispatch is asked after its batch was
    stored. -/
theorem Effect.dispatched_of_closed? {es : List Event} (h : t.Effect k k' t')
    (htraced : t.Traced n es) {c : Uuid × Bool} (hc : Event.closed? ⟨n, t, t'⟩ = some c) :
    c.1 ∈ es.flatMap Event.dispatched := by
  cases h with
  | dispatch effect =>
      cases effect with
      | closed now stored =>
          injection hc with hc
          rw [← hc]
          exact htraced.1.mem_dispatched
      | failed f m =>
          rw [Event.closed?_raised] at hc
          cases hc
      | _ => cases hc
  | _ => cases hc

end Task

namespace Board

variable {b : Board} {k' : Ledger} {n : Nat} {t t' : Task}

/-- No campaign is held twice. -/
theorem Reachable.claims (h : Reachable b) :
    Owned Task.claims Event.dispatched Ledger.Started b :=
  h.owned Task.claims_task fun effect hapart => effect.claims hapart

/-- The campaigns whose batch has been stored. -/
def dispatched (b : Board) : List Uuid := b.events.flatMap Event.dispatched

/-- A campaign whose batch has been stored is started for good. -/
theorem Reachable.started (h : Reachable b) {id : Uuid} (hid : id ∈ b.dispatched) :
    b.ledger.Started id :=
  h.claims.valid id (List.mem_append_right _ hid)

/-- Records belong to campaigns whose batch has been stored, each for another
    customer, and only these campaigns are ever completed at dispatch. -/
structure Dispatched (b : Board) : Prop where
  recipients : (b.ledger.tables.records.map DeliveryRecord.recipient).Nodup
  records : ∀ r ∈ b.ledger.tables.records, r.campaignId ∈ b.dispatched
  closed : ∀ e ∈ b.events, ∀ c, e.closed? = some c → c.1 ∈ b.dispatched

theorem Dispatched.advanced (inv : Dispatched b) (h : Reachable b) (task : b.tasks[n]? = some t)
    (effect : t.Effect b.ledger k' t') :
    Dispatched ⟨k', b.tasks.set n t', b.events ++ [⟨n, t, t'⟩]⟩ := by
  have hdispatched : (Board.mk k' (b.tasks.set n t') (b.events ++ [⟨n, t, t'⟩])).dispatched =
      b.dispatched ++ Event.dispatched ⟨n, t, t'⟩ := by
    simp only [dispatched, List.flatMap_append, List.flatMap_singleton]
  have hapart := nodup_of_task task h.identified.apart
  have hsound := h.sound t (List.mem_of_getElem? task)
  refine ⟨?_, fun r hr => ?_, fun e he c hc => ?_⟩
  · refine effect.recipients hapart hsound (fun id hid r hr heq => ?_) inv.recipients
    -- What is claimed has not been dispatched.
    have hclaims := nodup_of_task task h.claims.apart
    exact List.disjoint_of_nodup_append hclaims hid (heq ▸ inv.records r hr)
  · rw [hdispatched]
    rcases effect.campaignId (n := n) hapart hsound hr with ⟨r₀, hr₀, hsame⟩ | hnew
    · rw [← hsame]
      exact List.mem_append_left _ (inv.records r₀ hr₀)
    · exact List.mem_append_right _ hnew
  · rw [hdispatched]
    rcases List.mem_append.1 he with hold | hnew
    · exact List.mem_append_left _ (inv.closed e hold c hc)
    · rw [List.mem_singleton.1 hnew] at hc
      exact List.mem_append_left _ (effect.dispatched_of_closed? (h.traced.tasks n t task) hc)

/-- That is so on every board. -/
theorem Reachable.dispatched (h : Reachable b) : Dispatched b := by
  induction h with
  | start tables handed =>
      refine ⟨?_, fun r hr => ?_, fun e he => absurd he List.not_mem_nil⟩
      · rw [tables]
        exact List.nodup_nil
      · rw [tables] at hr
        exact absurd hr List.not_mem_nil
  | step before step distinct ih =>
      cases step with
      | issued r => exact ⟨ih.recipients, ih.records, ih.closed⟩
      | advanced task effect => exact ih.advanced before task effect

end Board

end Run

end Outreach
