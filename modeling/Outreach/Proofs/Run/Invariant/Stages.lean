import Outreach.Proofs.Run.Invariant.Identifiers

/-!
# What Stages Rely On

What a call has found out or prepared still holds when it goes on, whatever
the other calls have done in between: a campaign about to be stored is new in
every respect; a batch is addressed to different customers; the record of a
receipt is stored, and no longer pending once the receipt has settled it.

## Main definitions

* `Ledger.Later`: Records stay, and keep what they are once they are settled.
* `Run.Task.Sound`: What a call relies on.
* `Ledger.Settled`: A record has an outcome.
* `Run.Event.counted`: The record counted in a step.

## Theorems

* `Run.Task.Effect.later`: After every step the ledger is a later one.
* `Run.Board.Reachable.sound`: On every board, all calls are right.
* `Run.Task.Effect.counting`: What every step does to receipts.
* `Run.Board.Reachable.counting`: No record is counted twice.
-/

namespace Outreach

namespace Ledger

/-- Records stay, for the campaign they belong to, and are not changed once they
    are settled. -/
def Later (k k' : Ledger) : Prop :=
  ∀ id r, k.record? id = some r →
    ∃ r', k'.record? id = some r' ∧
      r'.campaignId = r.campaignId ∧ (r.status ≠ .pending → r' = r)

variable {k k' : Ledger}

theorem Later.of_records (h : k'.tables.records = k.tables.records) : Later k k' := by
  intro id r hr
  rw [record?, ← h] at hr
  exact ⟨r, hr, rfl, fun _ => rfl⟩

/-- A pending record is settled. -/
theorem later_putRecord {id : Uuid} {r r' : DeliveryRecord}
    (h : k.record? id = some r) (hid : r'.id = r.id)
    (hcampaign : r'.campaignId = r.campaignId) (hpending : r.status = .pending) :
    Later k (k.putRecord r') := by
  intro id₁ r₁ h₁
  have hkey : r'.id = id := hid.trans (id_of_record? h)
  rw [record?_putRecord]
  by_cases heq : r'.id = id₁
  -- It is the record itself, which was pending, or one that stays as it was.
  · rw [if_pos heq]
    rw [← heq, hkey, h, Option.some.injEq] at h₁
    exact ⟨r', rfl, h₁ ▸ hcampaign, fun hne => absurd (h₁ ▸ hpending) hne⟩
  · rw [if_neg heq]
    exact ⟨r₁, h₁, rfl, fun _ => rfl⟩

theorem later_putBatch {rs : List DeliveryRecord}
    (h : (rs.map DeliveryRecord.id ++ k.identifiers).Nodup) : Later k (k.putBatch rs) := by
  intro id r hr
  refine ⟨r, ?_, rfl, fun _ => rfl⟩
  rw [record?, lookUp] at hr ⊢
  rw [(identifiers_putBatch h).1, List.find?_append, hr, Option.some_or]

end Ledger

namespace Run

namespace Task

variable {k k' : Ledger} {t t' : Task}

/-- After every step the ledger is a later one. -/
theorem Effect.later (h : t.Effect k k' t') (hapart : (t.reserved ++ k.identifiers).Nodup) :
    k.Later k' := by
  cases h with
  | customer aside => exact .of_records aside.records
  | order aside => exact .of_records aside.records
  | campaign effect => cases effect <;> exact .of_records rfl
  | dispatch effect =>
      cases effect with
      | stored => exact Ledger.later_putBatch hapart
      | _ => exact .of_records rfl
  | receipt effect =>
      cases effect with
      | settled now outcome stored pending => exact Ledger.later_putRecord stored rfl rfl pending
      | _ => exact .of_records rfl

/-- What a call relies on at its stage. -/
def Sound (k : Ledger) : Task → Prop
  | campaign _ (.underway (.storing c _)) =>
    c.status = .pending ∧ c.sentCount = 0 ∧ c.failedCount = 0 ∧ 0 ≤ c.audienceSize
  | dispatch _ (.underway (.drafting _ customers)) => (customers.map Customer.id).Nodup
  | dispatch args (.underway (.storing _ records)) =>
    (records.map DeliveryRecord.customerId).Nodup ∧
      ∀ r ∈ records, r.campaignId = args.campaignId ∧ r.status = .pending
  | receipt args (.underway (.settling record)) =>
    ∃ r, k.record? args.recordId = some r ∧
      r.campaignId = record.campaignId
  | receipt args (.underway (.counting record)) =>
    args.outcome.isOutcome = true ∧
      ∃ r, k.record? args.recordId = some r ∧
        r.campaignId = record.campaignId ∧ r.status = args.outcome
  | _ => True

/-- What other calls do leaves that as it is. -/
theorem Sound.later (h : Sound k t) (hlater : k.Later k') : Sound k' t := by
  cases t with
  | customer args p => exact trivial
  | order args p => exact trivial
  | campaign args p => cases p with
    | underway s => cases s <;> exact h
    | _ => exact trivial
  | dispatch args p => cases p with
    | underway s => cases s <;> exact h
    | _ => exact trivial
  | receipt args p => cases p with
    | underway s => cases s with
      | settling record =>
          rcases h with ⟨r, hr, hcampaign⟩
          rcases hlater _ r hr with ⟨r', hr', hcampaign', -⟩
          exact ⟨r', hr', hcampaign'.trans hcampaign⟩
      | counting record =>
          rcases h with ⟨ho, r, hr, hcampaign, hstatus⟩
          rcases hlater _ r hr with ⟨r', hr', -, hsame⟩
          -- A settled record does not change any more.
          have hne := DeliveryStatus.ne_pending_of_isOutcome ho
          rw [hsame (hstatus.symm ▸ hne)] at hr'
          exact ⟨ho, r, hr', hcampaign, hstatus⟩
      | _ => exact trivial
    | _ => exact trivial

theorem Sound.of_dispatch {args : NewDispatch} {s : Dispatch.Stage}
    {p : Progress Dispatch.Stage (List DeliveryRecord)} (h : Dispatch.Effect args k s k' p)
    (hsound : Sound k (.dispatch args (.underway s)))
    (hcustomers : (k.tables.customers.map Customer.id).Nodup) :
    Sound k' (.dispatch args p) := by
  cases h with
  | resolved found =>
      exact (found.map Customer.id).nodup_iff.2
        (hcustomers.sublist (List.filter_sublist.map Customer.id))
  | drafted ids recipients fresh =>
      refine ⟨?_, fresh⟩
      rw [recipients]
      exact hsound
  | _ => exact trivial

theorem Sound.of_receipt {args : Receipt} {s : Receipts.Stage}
    {p : Progress Receipts.Stage ReceiptResult} (h : Receipts.Effect args k s k' p)
    (hsound : Sound k (.receipt args (.underway s))) : Sound k' (.receipt args p) := by
  cases h with
  | found stored => exact ⟨_, stored, rfl⟩
  | settled now outcome stored pending =>
      rcases hsound with ⟨r, hr, hcampaign⟩
      rw [stored, Option.some.injEq] at hr
      refine ⟨outcome, _, (Ledger.record?_putRecord _ _ _).trans
        (if_pos (Ledger.id_of_record? stored)), ?_, rfl⟩
      rw [← hcampaign, ← hr]
  | _ => exact trivial

/-- A step leaves its call with what the next one relies on. -/
theorem Effect.sound (h : t.Effect k k' t') (hsound : Sound k t)
    (hcustomers : (k.tables.customers.map Customer.id).Nodup) : Sound k' t' := by
  cases h with
  | customer aside => exact trivial
  | order aside => exact trivial
  | campaign effect =>
      cases effect with
      | drafted id pending unsent unfailed audience =>
          exact ⟨pending, unsent, unfailed, by omega⟩
      | _ => exact trivial
  | dispatch effect => exact .of_dispatch effect hsound hcustomers
  | receipt effect => exact .of_receipt effect hsound

end Task

namespace Board

/-- On every board, all calls can rely on what they need. -/
theorem Reachable.sound {b : Board} (h : Reachable b) : ∀ t ∈ b.tasks, t.Sound b.ledger := by
  induction h with
  | start tables handed => exact fun t ht => absurd ht List.not_mem_nil
  | step before step distinct ih =>
      cases step with
      | issued r =>
          intro t ht
          rcases List.mem_append.1 ht with hold | hnew
          · exact ih t hold
          · rw [List.mem_singleton.1 hnew]
            cases r <;> exact trivial
      | advanced task effect =>
          intro t ht
          -- The other calls find a later ledger, and this one what it prepared.
          have hapart := nodup_of_task task before.identified.apart
          rcases List.mem_or_eq_of_mem_set ht with hold | hnew
          · exact (ih t hold).later (effect.later hapart)
          · rw [hnew]
            exact effect.sound (ih _ (List.mem_of_getElem? task)) before.identified.customers

end Board

end Run

/-! ## Receipts count once

The receipt that settles a record is the one that goes on to the counters of
its campaign. A settled record stays settled, so there is never a second one. -/

/-- A record is stored and has an outcome. -/
def Ledger.Settled (k : Ledger) (id : Uuid) : Prop :=
  ∃ r, k.record? id = some r ∧ r.status ≠ .pending

theorem Ledger.Settled.later {k k' : Ledger} {id : Uuid} (h : k.Settled id) (hlater : k.Later k') :
    k'.Settled id := by
  rcases h with ⟨r, hr, hne⟩
  rcases hlater id r hr with ⟨r', hr', -, hsame⟩
  exact ⟨r', hr', hsame hne ▸ hne⟩

namespace Run

/-- The record counted in a step. -/
def Event.counted (e : Event) : List Uuid :=
  e.counted?.toList

namespace Task

variable {k k' : Ledger} {t t' : Task} {n : Nat}

/-- What every step does to receipts. -/
theorem Effect.counting (h : t.Effect k k' t') (hapart : (t.reserved ++ k.identifiers).Nodup) :
    Passes Ledger.Settled k k' t.counting (t'.counting ++ Event.counted ⟨n, t, t'⟩) := by
  have hlater : ∀ id, k.Settled id → k'.Settled id := fun id hid => hid.later (h.later hapart)
  cases h with
  | customer aside => exact .keep (List.Subperm.refl _) hlater
  | order aside => exact .keep (List.Subperm.refl _) hlater
  | campaign effect => cases effect <;> exact .keep (List.Subperm.refl _) hlater
  | dispatch effect => cases effect <;> exact .keep (List.Subperm.refl _) hlater
  | @receipt args k k' s p effect =>
      cases effect with
      | settled now outcome stored pending =>
          -- The record was pending, so no receipt has settled it before.
          refine Passes.take [args.recordId] (List.Subperm.refl _)
            (List.nodup_singleton _) (fun id hid => ?_) hlater
          rw [List.mem_singleton.1 hid]
          refine ⟨?_, _, (Ledger.record?_putRecord _ _ _).trans
            (if_pos (Ledger.id_of_record? stored)), DeliveryStatus.ne_pending_of_isOutcome outcome⟩
          rintro ⟨r, hr, hne⟩
          rw [stored, Option.some.injEq] at hr
          exact hne (hr ▸ pending)
      | _ => exact .keep (List.Subperm.refl _) hlater

end Task

namespace Board

/-- No record is counted twice, and every counted record has an outcome. -/
theorem Reachable.counting {b : Board} (h : Reachable b) :
    Owned Task.counting Event.counted Ledger.Settled b :=
  h.owned Task.counting_task fun effect hapart => effect.counting hapart

end Board

end Run

end Outreach
