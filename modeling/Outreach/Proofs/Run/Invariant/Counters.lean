import Outreach.Proofs.Campaign.Balance
import Outreach.Proofs.Run.Invariant.Claims
import Outreach.Proofs.Run.Invariant.Stages

/-!
# Counters Follow Records

The counters of a campaign follow its settled records, one step behind: what
they are held against are the records that are settled and whose outcome has
been counted. Every step keeps each campaign in balance with these.

## Main definitions

* `tally`: The counted records of a campaign with some outcome.
* `Run.Board.Balanced`: Every campaign is in balance.

## Theorems

* `Run.Task.Effect.tally`: What every step does to the counted records.
* `Run.Board.Reachable.balanced`: Every campaign is in balance on every board.
-/

namespace Outreach

/-- How many records of a campaign are in some state and have been counted. -/
def tally (records : List DeliveryRecord) (counted : List Uuid) (id : Uuid)
    (status : DeliveryStatus) : Nat :=
  records.countP fun r =>
    decide (r.campaignId = id) && decide (r.status = status) && decide (r.id ∈ counted)

section Tally

variable {records rs : List DeliveryRecord} {counted : List Uuid} {id : Uuid}
  {status : DeliveryStatus}

theorem tally_eq_zero (h : ∀ r ∈ records, r.campaignId ≠ id) :
    tally records counted id status = 0 := by
  rw [tally, List.countP_eq_zero]
  intro r hr
  simp only [h r hr, decide_false, Bool.false_and, Bool.false_eq_true, not_false_eq_true]

/-- Records that have not been counted do not show. -/
theorem tally_append (h : ∀ r ∈ rs, r.id ∉ counted) :
    tally (records ++ rs) counted id status = tally records counted id status := by
  rw [tally, tally, List.countP_append]
  have hzero : rs.countP (fun r => decide (r.campaignId = id) && decide (r.status = status) &&
      decide (r.id ∈ counted)) = 0 := by
    rw [List.countP_eq_zero]
    intro r hr
    simp only [h r hr, decide_false, Bool.and_false, Bool.false_eq_true, not_false_eq_true]
  rw [hzero, Nat.add_zero]

theorem tally_upsert {r r' : DeliveryRecord}
    (hlook : lookUp DeliveryRecord.id r'.id records = some r) (h : r'.id ∉ counted) :
    tally (upsert DeliveryRecord.id r' records) counted id status =
      tally records counted id status := by
  have hr : r.id ∉ counted := by
    rw [key_of_lookUp hlook]
    exact h
  -- Neither the record before nor the one in its place is counted.
  have hcount := countP_upsert_of_known (fun r => decide (r.campaignId = id) &&
    decide (r.status = status) && decide (r.id ∈ counted)) hlook
  simp only [h, hr, decide_false, Bool.and_false, Bool.false_eq_true, if_false] at hcount
  exact hcount

/-- A record that is counted shows once. -/
theorem tally_snoc {u : Uuid} {r : DeliveryRecord} (hkeys : (records.map DeliveryRecord.id).Nodup)
    (hlook : lookUp DeliveryRecord.id u records = some r) (h : u ∉ counted) :
    tally records (counted ++ [u]) id status =
      tally records counted id status + if r.campaignId = id ∧ r.status = status then 1 else 0 := by
  induction records with
  | nil => cases hlook
  | cons a rest ih =>
      rw [List.map_cons, List.nodup_cons] at hkeys
      rw [lookUp_cons] at hlook
      rw [tally, tally, List.countP_cons, List.countP_cons]
      by_cases ha : a.id = u
      · rw [if_pos ha, Option.some.injEq] at hlook
        subst hlook
        -- The rest of the table does not know the record.
        have hrest : rest.countP (fun r => decide (r.campaignId = id) &&
            decide (r.status = status) && decide (r.id ∈ counted ++ [u])) =
            rest.countP (fun r => decide (r.campaignId = id) &&
            decide (r.status = status) && decide (r.id ∈ counted)) := by
          refine List.countP_congr fun b hb => ?_
          have hne : b.id ≠ u := by
            rintro rfl
            exact hkeys.1 (ha ▸ List.mem_map_of_mem hb)
          simp only [List.mem_append, List.mem_singleton, hne, or_false]
        rw [hrest, ha]
        simp only [List.mem_append, List.mem_singleton, or_true, decide_true, Bool.and_true, h,
          decide_false, Bool.and_false, Bool.false_eq_true, if_false, Bool.and_eq_true,
          decide_eq_true_eq, Nat.add_zero]
      · rw [if_neg ha] at hlook
        have hrest := ih hkeys.2 hlook
        rw [tally, tally] at hrest
        rw [hrest]
        simp only [List.mem_append, List.mem_singleton, ha, or_false]
        omega

theorem tally_quiet {records' : List DeliveryRecord} {added : List Uuid} {m : Nat}
    (hrecords : tally records' counted id status = tally records counted id status)
    (hadded : added = []) (hm : m = 0) :
    tally records' (counted ++ added) id status = tally records counted id status + m := by
  rw [hadded, List.append_nil, hm, Nat.add_zero]
  exact hrecords

end Tally

namespace Run

namespace Event

/-- The campaign whose dispatch comes to an end in a step. -/
def closed (e : Event) : List Uuid :=
  e.closed?.toList.map Prod.fst

end Event

namespace Task

variable {k k' : Ledger} {t t' : Task} {n : Nat} {counted : List Uuid}

/-- What the next step of a call adds to the counted records of a campaign in
    some state. -/
def adds (id : Uuid) (status : DeliveryStatus) : Task → Nat
  | receipt args (.underway (.counting record)) =>
    if record.campaignId = id ∧ args.outcome = status then 1 else 0
  | _ => 0

/-- What every step does to the counted records of a campaign. -/
theorem Effect.tally (h : t.Effect k k' t') (hapart : (t.reserved ++ k.identifiers).Nodup)
    (hsound : t.Sound k) (hcounting : (t.counting ++ counted).Nodup)
    (hsettled : ∀ id ∈ counted, k.Settled id) (id : Uuid) (status : DeliveryStatus) :
    tally k'.tables.records (counted ++ Event.counted ⟨n, t, t'⟩) id status =
      tally k.tables.records counted id status + t.adds id status := by
  have hkeys : (k.tables.records.map DeliveryRecord.id).Nodup :=
    hapart.of_append_right.of_append_right
  cases h with
  | customer aside => exact tally_quiet (by rw [aside.records]) rfl rfl
  | order aside => exact tally_quiet (by rw [aside.records]) rfl rfl
  | campaign effect => cases effect <;> exact tally_quiet rfl rfl rfl
  | dispatch effect =>
      cases effect with
      | stored =>
          -- Counted records are stored, and those of the batch are new.
          refine tally_quiet ?_ rfl rfl
          rw [(Ledger.identifiers_putBatch hapart).1]
          refine tally_append fun r hr hcounted => ?_
          rcases hsettled _ hcounted with ⟨r₀, hr₀, -⟩
          exact List.disjoint_of_nodup_append hapart (List.mem_map_of_mem hr)
            (List.mem_append_right _ (mem_keys_of_lookUp hr₀))
      | _ => exact tally_quiet rfl rfl rfl
  | @receipt args k k' s p effect =>
      -- The receipt knows the campaign and the outcome of its record.
      have hcounted : ∀ record, s = .counting record →
          Outreach.tally k.tables.records (counted ++ [args.recordId]) id status =
            Outreach.tally k.tables.records counted id status +
              adds id status (Task.receipt args (.underway s)) := by
        rintro record rfl
        rcases hsound with ⟨-, r, hr, hcampaign, hstatus⟩
        have hnew : args.recordId ∉ counted := (List.nodup_cons.1 hcounting).1
        rw [tally_snoc hkeys hr hnew, hcampaign, hstatus, adds]
      cases effect with
      | @settled record r now outcome stored pending =>
          refine tally_quiet (tally_upsert (Ledger.id_of_record? stored ▸ stored) ?_) rfl rfl
          -- A counted record would be settled already.
          intro hmem
          rcases hsettled r.id hmem with ⟨r₀, hr₀, hne⟩
          rw [Ledger.id_of_record? stored, stored, Option.some.injEq] at hr₀
          exact hne (hr₀ ▸ pending)
      | counted now stored outcome => exact hcounted _ rfl
      | uncounted f unstored => exact hcounted _ rfl
      | _ => exact tally_quiet rfl rfl rfl

/-- The campaign whose batch a call knows to be stored. -/
def concerns : Task → List Uuid
  | dispatch args (.underway (.handing _ _)) => [args.campaignId]
  | receipt _ (.underway (.counting record)) => [record.campaignId]
  | _ => []

section Balance

variable {S F : Uuid → Nat} {C : Uuid → Prop} {id : Uuid} {c : Campaign}

theorem balanced_of_campaign {args : NewCampaign} {s : Campaigns.Stage}
    {p : Progress Campaigns.Stage Campaign} (h : Campaigns.Effect k s k' p)
    (hbalanced : ∀ id c, k.campaign? id = some c → c.Balanced (S id) (F id) (C id))
    (hnone : ∀ id, k.campaign? id = none → S id = 0 ∧ F id = 0 ∧ ¬C id)
    (hapart : ((campaign args (.underway s)).reserved ++ k.identifiers).Nodup)
    (hsound : (campaign args (.underway s)).Sound k) (hc : k'.campaign? id = some c) :
    c.Balanced (S id) (F id) (C id) := by
  cases h with
  | @stored c₀ size =>
      rw [Ledger.campaign?_putCampaign] at hc
      by_cases hid : c₀.id = id
      · rw [if_pos hid, Option.some.injEq] at hc
        subst hc
        -- There was no such campaign, so there are no records of it either.
        rcases hnone id (hid ▸ campaign?_of_storing hapart) with ⟨hS, hF, hC⟩
        rw [hS, hF]
        exact Campaign.balanced_of_new hsound.1 hsound.2.1 hsound.2.2.1 hsound.2.2.2 hC
      · rw [if_neg hid] at hc
        exact hbalanced id c hc
  | _ => exact hbalanced id c hc

/-- Only the status of a campaign is changed that is not completed. -/
theorem balanced_of_status {u : Uuid} {c₀ : Campaign} {status : CampaignStatus} {now : Timestamp}
    (hbalanced : ∀ id c, k.campaign? id = some c → c.Balanced (S id) (F id) (C id))
    (hstored : k.campaign? u = some c₀) (hbefore : c₀.status ≠ .completed)
    (hafter : status ≠ .completed)
    (hc : (k.putCampaign { c₀ with status := status, updatedAt := now }).campaign? id = some c) :
    c.Balanced (S id) (F id) (C id) := by
  rw [Ledger.campaign?_putCampaign] at hc
  by_cases hid : c₀.id = id
  · rw [if_pos hid, Option.some.injEq] at hc
    rw [← Ledger.id_of_campaign? hstored, hid] at hstored
    rw [← hc]
    exact (hbalanced id c₀ hstored).of_status status hbefore hafter
  · -- Any other campaign is as it was.
    rw [if_neg hid] at hc
    exact hbalanced id c hc

theorem balanced_of_dispatch {args : NewDispatch} {s : Dispatch.Stage}
    {p : Progress Dispatch.Stage (List DeliveryRecord)} (h : Dispatch.Effect args k s k' p)
    (hbalanced : ∀ id c, k.campaign? id = some c → c.Balanced (S id) (F id) (C id))
    (hstarted : ∀ id ∈ (dispatch args (.underway s)).concerns, k.Started id)
    (hc : k'.campaign? id = some c) :
    c.Balanced (S id) (F id)
      (C id ∨ id ∈ Event.closed ⟨n, .dispatch args (.underway s), .dispatch args p⟩) := by
  have hquiet : ∀ {c : Campaign} {e : Event}, k.campaign? id = some c → id ∉ e.closed →
      c.Balanced (S id) (F id) (C id ∨ id ∈ e.closed) := by
    intro c e hc he
    exact (hbalanced id c hc).as rfl rfl (or_iff_left he)
  cases h with
  | claimed now stored pending =>
      refine (balanced_of_status hbalanced stored ?_ ?_ hc).as rfl rfl
        (or_iff_left List.not_mem_nil)
      · rw [pending]
        decide
      · decide
  | released now stored sending none_counted =>
      refine (balanced_of_status hbalanced stored ?_ ?_ hc).as rfl rfl
        (or_iff_left List.not_mem_nil)
      · rw [sending]
        decide
      · decide
  | @closed records c₀ now stored =>
      have hkey := Ledger.id_of_campaign? stored
      rw [Ledger.campaign?_putCampaign, (Campaign.completeIfExhausted_keeps now).1] at hc
      by_cases hid : c₀.id = id
      · rw [if_pos hid, Option.some.injEq] at hc
        -- Its batch is stored, so it was started.
        rcases hstarted _ List.mem_cons_self with ⟨d, hd, hne⟩
        rw [stored, Option.some.injEq] at hd
        rw [← hkey, hid] at stored
        rw [← hc]
        refine ((hbalanced id c₀ stored).closed (hd ▸ hne)).as rfl rfl ?_
        exact iff_true_intro (Or.inr (List.mem_singleton.2 (hid.symm.trans hkey)))
      · rw [if_neg hid] at hc
        exact hquiet hc fun h => hid (hkey.trans (List.mem_singleton.1 h).symm)
  | failed f m =>
      rw [Event.closed, Event.closed?_raised]
      exact (hbalanced id c hc).as rfl rfl (or_iff_left List.not_mem_nil)
  | _ => exact hquiet hc List.not_mem_nil

theorem balanced_of_receipt {args : Receipt} {s : Receipts.Stage}
    {p : Progress Receipts.Stage ReceiptResult} (h : Receipts.Effect args k s k' p)
    (hbalanced : ∀ id c, k.campaign? id = some c → c.Balanced (S id) (F id) (C id))
    (hsound : (receipt args (.underway s)).Sound k)
    (hstarted : ∀ id ∈ (receipt args (.underway s)).concerns, k.Started id)
    (hc : k'.campaign? id = some c) :
    c.Balanced (S id + (receipt args (.underway s)).adds id .sent)
      (F id + (receipt args (.underway s)).adds id .failed) (C id) := by
  cases h with
  | @counted record c₀ after update now stored outcome =>
      rcases hstarted _ List.mem_cons_self with ⟨d, hd, hne⟩
      rw [stored, Option.some.injEq] at hd
      have hkey := Ledger.id_of_campaign? stored
      rw [Ledger.campaign?_putCampaign, (Campaign.recordOutcome_keeps outcome).1] at hc
      by_cases hid : c₀.id = id
      · rw [if_pos hid, Option.some.injEq] at hc
        have hcampaign : record.campaignId = id := hkey.symm.trans hid
        rw [hcampaign] at stored
        rw [← hc]
        refine ((hbalanced id c₀ stored).counted (hd ▸ hne) outcome).as ?_ ?_ Iff.rfl
        · simp only [adds, hcampaign, true_and]
        · simp only [adds, hcampaign, true_and]
      · rw [if_neg hid] at hc
        have hcampaign : record.campaignId ≠ id := fun heq => hid (hkey.trans heq)
        refine (hbalanced id c hc).as ?_ ?_ Iff.rfl
        · simp only [adds, hcampaign, false_and, if_false, Nat.add_zero]
        · simp only [adds, hcampaign, false_and, if_false, Nat.add_zero]
  | uncounted f unstored =>
      -- The campaign of a record is stored, and what settled it was an outcome.
      rcases hstarted _ List.mem_cons_self with ⟨d, hd, -⟩
      rcases unstored with hnone | houtcome
      · rw [hd] at hnone
        cases hnone
      · exact absurd hsound.1 houtcome
  | _ => exact hbalanced id c hc

/-- Every step keeps every campaign in balance. -/
theorem Effect.balanced (h : t.Effect k k' t')
    (hbalanced : ∀ id c, k.campaign? id = some c → c.Balanced (S id) (F id) (C id))
    (hnone : ∀ id, k.campaign? id = none → S id = 0 ∧ F id = 0 ∧ ¬C id)
    (hapart : (t.reserved ++ k.identifiers).Nodup) (hsound : t.Sound k)
    (hstarted : ∀ id ∈ t.concerns, k.Started id) (hc : k'.campaign? id = some c) :
    c.Balanced (S id + t.adds id .sent) (F id + t.adds id .failed)
      (C id ∨ id ∈ Event.closed ⟨n, t, t'⟩) := by
  cases h with
  | customer aside =>
      rw [Ledger.campaign?, aside.campaigns] at hc
      exact (hbalanced id c hc).as rfl rfl (or_iff_left List.not_mem_nil)
  | order aside =>
      rw [Ledger.campaign?, aside.campaigns] at hc
      exact (hbalanced id c hc).as rfl rfl (or_iff_left List.not_mem_nil)
  | campaign effect =>
      exact (balanced_of_campaign effect hbalanced hnone hapart hsound hc).as rfl rfl
        (or_iff_left List.not_mem_nil)
  | dispatch effect =>
      exact (balanced_of_dispatch effect hbalanced hstarted hc).as rfl rfl Iff.rfl
  | receipt effect =>
      exact (balanced_of_receipt effect hbalanced hsound hstarted hc).as rfl rfl
        (or_iff_left List.not_mem_nil)

end Balance

end Task

namespace Board

/-- The records whose outcome has been counted. -/
def counted (b : Board) : List Uuid := b.events.flatMap Event.counted

/-- The campaigns whose dispatch has come to an end. -/
def closed (b : Board) : List Uuid := b.events.flatMap Event.closed

/-- The counted records of a campaign in some state. -/
def tally (b : Board) (id : Uuid) (status : DeliveryStatus) : Nat :=
  Outreach.tally b.ledger.tables.records b.counted id status

/-- Every campaign is in balance with its counted records. -/
def Balanced (b : Board) : Prop :=
  ∀ id c, b.ledger.campaign? id = some c →
    c.Balanced (b.tally id .sent) (b.tally id .failed) (id ∈ b.closed)

variable {b : Board} {k' : Ledger} {n : Nat} {t t' : Task} {id : Uuid}

/-- What a call knows to be stored is stored. -/
theorem Reachable.mem_dispatched_of_concerns (h : Reachable b) (task : b.tasks[n]? = some t)
    (hid : id ∈ t.concerns) : id ∈ b.dispatched := by
  cases t with
  | dispatch args p => cases p with
    | underway s => cases s with
      | handing records rest =>
          rw [List.mem_singleton.1 hid]
          exact (h.traced.tasks n _ task).1.mem_dispatched
      | _ => cases hid
    | _ => cases hid
  | receipt args p => cases p with
    | underway s => cases s with
      | counting record =>
          rcases h.sound _ (List.mem_of_getElem? task) with ⟨-, r, hr, hcampaign, -⟩
          rw [List.mem_singleton.1 hid, ← hcampaign]
          exact h.dispatched.records r (mem_of_lookUp hr)
      | _ => cases hid
    | _ => cases hid
  | _ => cases hid

/-- A dispatch ends after its batch was stored. -/
theorem Reachable.mem_dispatched_of_closed (h : Reachable b) (hid : id ∈ b.closed) :
    id ∈ b.dispatched := by
  rcases List.mem_flatMap.1 hid with ⟨e, he, hclosed⟩
  rcases List.mem_map.1 hclosed with ⟨c, hc, rfl⟩
  exact h.dispatched.closed e he c (Option.mem_toList.1 hc)

/-- Of a campaign that is not stored there are no records, nor was it ever
    dispatched. -/
theorem Reachable.nothing_of_campaign? (h : Reachable b) (hid : b.ledger.campaign? id = none) :
    b.tally id .sent = 0 ∧ b.tally id .failed = 0 ∧ id ∉ b.closed := by
  have hnot : id ∉ b.dispatched := by
    intro hmem
    rcases h.started hmem with ⟨c, hc, -⟩
    rw [hid] at hc
    cases hc
  have hrecords : ∀ r ∈ b.ledger.tables.records, r.campaignId ≠ id :=
    fun r hr heq => hnot (heq ▸ h.dispatched.records r hr)
  exact ⟨tally_eq_zero hrecords, tally_eq_zero hrecords,
    fun hmem => hnot (h.mem_dispatched_of_closed hmem)⟩

theorem Balanced.advanced (inv : Balanced b) (h : Reachable b) (task : b.tasks[n]? = some t)
    (effect : t.Effect b.ledger k' t') :
    Balanced ⟨k', b.tasks.set n t', b.events ++ [⟨n, t, t'⟩]⟩ := by
  have hapart := nodup_of_task task h.identified.apart
  have hsound := h.sound t (List.mem_of_getElem? task)
  have hcounting : (t.counting ++ b.counted).Nodup := nodup_of_task task h.counting.apart
  have hsettled : ∀ id ∈ b.counted, b.ledger.Settled id :=
    fun id hid => h.counting.valid id (List.mem_append_right _ hid)
  intro id c hc
  -- Records and counters change together, up to the step in between.
  have htally := effect.tally (n := n) hapart hsound hcounting hsettled id
  have hafter := effect.balanced (n := n) inv (fun id hid => h.nothing_of_campaign? hid) hapart
    hsound (fun id hid => h.started (h.mem_dispatched_of_concerns task hid)) hc
  refine hafter.as ?_ ?_ ?_
  · rw [tally, tally, ← htally, counted, List.flatMap_append, List.flatMap_singleton]
    rfl
  · rw [tally, tally, ← htally, counted, List.flatMap_append, List.flatMap_singleton]
    rfl
  · rw [closed, List.flatMap_append, List.flatMap_singleton, List.mem_append]
    rfl

/-- Every campaign is in balance on every board. -/
theorem Reachable.balanced (h : Reachable b) : Balanced b := by
  induction h with
  | start tables handed =>
      intro id c hc
      rw [Ledger.campaign?, tables] at hc
      cases hc
  | step before step distinct ih =>
      cases step with
      | issued r => exact ih
      | advanced task effect => exact ih.advanced before task effect

end Board

end Run

end Outreach
