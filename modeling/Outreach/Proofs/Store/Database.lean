import Outreach.Proofs.Rule.Wire
import Outreach.Proofs.Sql.Update
import Outreach.Proofs.Store.Memory

/-!
# The Store in a Database, Statement by Statement

The statements of the database, seen as operations on whole entities. Where each
identifier occurs once, a statement finds the entity, lets it change itself and
stores it, or leaves the store exactly as it is. The store in memory does the same
with its own entity, so the two report the same and count the same, whatever they
were like before.

## Main definitions

* `Database.putCampaign`, `Database.putRecord`: An entity stored.
* `Campaign.tally`: What a campaign counts.
* `SameStep`: An operation that two stores report alike.

## Theorems

* `Database.ends_unitOfWork`: A unit of work is its body, or leaves nothing behind.
* `Database.markSending_eq`, `Database.releaseToPending_eq`,
  `Database.recordOutcome_eq`, `Database.completeIfExhausted_eq`,
  `Database.settleRecord_eq`: The operations on campaigns and records.
* `Database.updates_agree`: They agree with the operations in memory.
-/

namespace Outreach

namespace Database

/-- Store a campaign. -/
def putCampaign (d : Database) (c : Campaign) : Database :=
  d.withTables fun t => { t with campaigns := upsert Campaign.id c t.campaigns }

/-- Store a record. -/
def putRecord (d : Database) (r : DeliveryRecord) : Database :=
  d.withTables fun t => { t with records := upsert DeliveryRecord.id r t.records }

/-! ## Units of work -/

section Ends

variable {α : Type} {w : World Database} {ok : α → World Database → Prop}
  {bad : Fault → World Database → Prop}

@[simp] theorem ends_put (f : Database → Database) {ok : Unit → World Database → Prop} :
    Action.Ends (put f) w ok bad ↔ ok () { w with store := f w.store } := Iff.rfl

theorem change_of_ok {f : Database → Timestamp → Except Fault (Database × α)} {d : Database} {a : α}
    (h : f w.store w.time = .ok (d, a)) : change f w = .ok a { w with store := d } := by
  change EStateM.bind (Action.ofExcept (f w.store w.time)) _ w = _
  rw [h]
  rfl

theorem change_of_error {f : Database → Timestamp → Except Fault (Database × α)} {e : Fault}
    (h : f w.store w.time = .error e) : change f w = .error e w := by
  change EStateM.bind (Action.ofExcept (f w.store w.time)) _ w = _
  rw [h]
  rfl

/-- A unit of work that can be committed ends as its body, and one that fails leaves the
    rows from before behind. -/
theorem ends_unitOfWork {x : Action Database α}
    (h : Action.Ends x { w with store := w.store.begin }
      (fun a v => v.store.commitFault = none ∧
        ∀ log, ok a { v with store := { v.store with saved := none }, log := log })
      fun f v => ∀ log, bad f { v with store := v.store.restore, log := log }) :
    Action.Ends (unitOfWork x) w ok bad := by
  simp only [unitOfWork, Repository.begin, Repository.commit, Repository.rollback,
    Action.ends_bind, ends_put, Action.ends_capture]
  refine h.mono (fun a v ha => ?_) fun f v hf => ?_
  · simp only [commit, Action.ends_bind, Action.ends_get]
    rw [ha.1]
    exact ha.2 _
  · simp only [abandon, Action.ends_bind, ends_put, Action.ends_note, Action.ends_throw]
    exact hf _

end Ends

/-! ## Statements on campaigns -/

section

variable {d : Database} {u : SqlUpdate} {id : Uuid} {now : Timestamp}

theorem loadedCampaign_eq (row : Campaign) : loadedCampaign row = .ok row := by
  rw [loadedCampaign, Rule.listOfJson_listToJson]
  rfl

theorem updateCampaigns_of_absent (hid : ∀ c : Campaign, c.id ≠ id → u.changed? now c = none)
    (habsent : lookUp Campaign.id id d.tables.campaigns = none) :
    d.updateCampaigns u now = (d, []) := by
  rw [updateCampaigns, SqlUpdate.run_of_absent hid habsent]
  rfl

theorem updateCampaigns_of_none (hkeys : (d.tables.campaigns.map Campaign.id).Nodup)
    (hid : ∀ c : Campaign, c.id ≠ id → u.changed? now c = none) {row : Campaign}
    (hrow : lookUp Campaign.id id d.tables.campaigns = some row)
    (hnone : u.changed? now row = none) : d.updateCampaigns u now = (d, []) := by
  rw [updateCampaigns, (SqlUpdate.run_of_lookUp hkeys hid hrow).1 hnone]
  rfl

theorem updateCampaigns_of_some (hkeys : (d.tables.campaigns.map Campaign.id).Nodup)
    (hid : ∀ c : Campaign, c.id ≠ id → u.changed? now c = none) {row new : Campaign}
    (hrow : lookUp Campaign.id id d.tables.campaigns = some row)
    (hnew : u.changed? now row = some new) (hkey : new.id = id) :
    d.updateCampaigns u now = (d.putCampaign new, [new]) := by
  rw [updateCampaigns, (SqlUpdate.run_of_lookUp hkeys hid hrow).2 new hnew hkey]
  rfl

end

variable (d : Database) (id : Uuid) (now : Timestamp)

/-- Only a pending campaign is started. -/
theorem markSending_eq (hkeys : (d.tables.campaigns.map Campaign.id).Nodup) :
    d.markSending id now =
      match lookUp Campaign.id id d.tables.campaigns with
      | none => .error (.entityNotFound .campaign id)
      | some c =>
        if c.status = .pending then
          .ok (d.putCampaign { c with status := .sending, updatedAt := now.naive },
            some { c with status := .sending, updatedAt := now.naive })
        else .ok (d, none) := by
  have hid : ∀ c : Campaign, c.id ≠ id → (markSendingUpdate id).changed? now c = none := by
    intro c hc
    rw [SqlUpdate.changed?_markSending, if_neg hc]
  rw [markSending]
  cases hrow : lookUp Campaign.id id d.tables.campaigns with
  | none => rw [updateCampaigns_of_absent hid hrow]
  | some c =>
      have hkey : c.id = id := key_of_lookUp hrow
      have hchanged := SqlUpdate.changed?_markSending id now c
      rw [if_pos hkey] at hchanged
      by_cases hs : c.status = .pending
      · rw [Campaign.startSending, if_neg (not_not_intro hs)] at hchanged
        rw [updateCampaigns_of_some hkeys hid hrow hchanged hkey]
        simp only [loadedCampaign_eq, bind, Except.bind, if_pos hs]
        rfl
      · rw [Campaign.startSending, if_pos hs] at hchanged
        rw [updateCampaigns_of_none hkeys hid hrow hchanged]
        exact (if_neg hs).symm

/-- Only a campaign that is being sent and has no outcomes is put back. -/
theorem releaseToPending_eq (hkeys : (d.tables.campaigns.map Campaign.id).Nodup) :
    (d.updateCampaigns (releaseUpdate id) now).1 =
      match lookUp Campaign.id id d.tables.campaigns with
      | none => d
      | some c =>
        if c.status = .sending ∧ c.outcomeCount = 0 then
          d.putCampaign { c with status := .pending, updatedAt := now.naive }
        else d := by
  have hid : ∀ c : Campaign, c.id ≠ id → (releaseUpdate id).changed? now c = none := by
    intro c hc
    rw [SqlUpdate.changed?_release, if_neg hc]
  cases hrow : lookUp Campaign.id id d.tables.campaigns with
  | none => rw [updateCampaigns_of_absent hid hrow]
  | some c =>
      have hkey : c.id = id := key_of_lookUp hrow
      have hchanged := SqlUpdate.changed?_release id now c
      rw [if_pos hkey] at hchanged
      by_cases hopen : c.status = .sending ∧ c.outcomeCount = 0
      · rw [Campaign.release, if_neg (not_not_intro hopen.1), if_neg (not_not_intro hopen.2)]
          at hchanged
        rw [updateCampaigns_of_some hkeys hid hrow hchanged hkey]
        exact (if_pos hopen).symm
      · have hnone : (c.release now.naive).toOption = none := by
          rw [Campaign.release]
          by_cases hs : c.status = .sending
          · rw [if_neg (not_not_intro hs), if_pos fun hz => hopen ⟨hs, hz⟩]
            rfl
          · rw [if_pos hs]
            rfl
        rw [updateCampaigns_of_none hkeys hid hrow (hchanged.trans hnone)]
        exact (if_neg hopen).symm

/-- An outcome is counted as the campaign counts it. -/
theorem recordOutcome_eq {outcome : DeliveryStatus} (ho : outcome.isOutcome)
    (hkeys : (d.tables.campaigns.map Campaign.id).Nodup) :
    d.recordOutcome id outcome now =
      match lookUp Campaign.id id d.tables.campaigns with
      | none => .ok (d, ⟨false, false⟩)
      | some c =>
        if c.status = .sending ∧ c.outcomeCount < c.audienceSize then
          .ok (d.putCampaign ((c.count outcome now.naive).completeIfExhausted now.naive).1,
            ⟨true, ((c.count outcome now.naive).completeIfExhausted now.naive).2⟩)
        else .ok (d, ⟨false, false⟩) := by
  have hstatement : ∃ u, recordOutcomeUpdate id outcome = .ok u := by
    cases outcome with
    | pending => cases ho
    | sent => exact ⟨_, rfl⟩
    | failed => exact ⟨_, rfl⟩
  rcases hstatement with ⟨u, hu⟩
  have hid : ∀ c : Campaign, c.id ≠ id → u.changed? now c = none := by
    intro c hc
    rw [SqlUpdate.changed?_recordOutcome id now c hu, if_neg fun h => hc h.1]
  rw [recordOutcome, hu]
  simp only [bind, Except.bind, pure, Except.pure]
  cases hrow : lookUp Campaign.id id d.tables.campaigns with
  | none => rw [updateCampaigns_of_absent hid hrow]
  | some c =>
      have hkey : c.id = id := key_of_lookUp hrow
      have hchanged := SqlUpdate.changed?_recordOutcome id now c hu
      by_cases hopen : c.status = .sending ∧ c.outcomeCount < c.audienceSize
      · rw [if_pos ⟨hkey, hopen⟩] at hchanged
        have hcount : (c.count outcome now.naive).id = c.id ∧
            (c.count outcome now.naive).status = .sending := by
          cases outcome <;> exact ⟨rfl, hopen.1⟩
        have hnew : ((c.count outcome now.naive).completeIfExhausted now.naive).1.id = id := by
          rw [(Campaign.completeIfExhausted_keeps now.naive).1, hcount.1, hkey]
        rw [updateCampaigns_of_some hkeys hid hrow hchanged hnew]
        simp only [if_pos hopen]
        -- The row says that it is completed just if this step completed it.
        congr 3
        by_cases hlast : (c.count outcome now.naive).audienceSize ≤
            (c.count outcome now.naive).outcomeCount
        · rw [Campaign.completeIfExhausted_of_open now.naive hcount.2 hlast]
          rfl
        · rw [Campaign.completeIfExhausted_of_not now.naive fun h => hlast h.2]
          simp only [hcount.2, reduceCtorEq, decide_false]
      · rw [if_neg fun h => hopen h.2] at hchanged
        rw [updateCampaigns_of_none hkeys hid hrow hchanged]
        simp only [if_neg hopen]

theorem recordOutcome_of_not_outcome {outcome : DeliveryStatus} (ho : ¬outcome.isOutcome) :
    d.recordOutcome id outcome now = .error (.notAnOutcome outcome.qualified) := by
  cases outcome with
  | pending => rfl
  | sent => exact absurd rfl ho
  | failed => exact absurd rfl ho

/-- A campaign is completed as it completes itself. -/
theorem completeIfExhausted_eq (hkeys : (d.tables.campaigns.map Campaign.id).Nodup) :
    d.completeIfExhausted id now =
      match lookUp Campaign.id id d.tables.campaigns with
      | none => (d, false)
      | some c =>
        if (c.completeIfExhausted now.naive).2 = true then
          (d.putCampaign (c.completeIfExhausted now.naive).1, true)
        else (d, false) := by
  have hid : ∀ c : Campaign, c.id ≠ id → (completeUpdate id).changed? now c = none := by
    intro c hc
    rw [SqlUpdate.changed?_complete, if_neg fun h => hc h.1]
  rw [completeIfExhausted]
  cases hrow : lookUp Campaign.id id d.tables.campaigns with
  | none =>
      rw [updateCampaigns_of_absent hid hrow]
      rfl
  | some c =>
      have hkey : c.id = id := key_of_lookUp hrow
      have hchanged := SqlUpdate.changed?_complete id now c
      by_cases hlast : (c.completeIfExhausted now.naive).2 = true
      · rw [if_pos ⟨hkey, hlast⟩] at hchanged
        have hnew : (c.completeIfExhausted now.naive).1.id = id := by
          rw [(Campaign.completeIfExhausted_keeps now.naive).1, hkey]
        rw [updateCampaigns_of_some hkeys hid hrow hchanged hnew]
        exact (if_pos hlast).symm
      · rw [if_neg fun h => hlast h.2] at hchanged
        rw [updateCampaigns_of_none hkeys hid hrow hchanged]
        exact (if_neg hlast).symm

/-! ## The statement on records -/

/-- Only a pending record is settled. -/
theorem settleRecord_eq {outcome : DeliveryStatus} (ho : outcome.isOutcome)
    (hkeys : (d.tables.records.map DeliveryRecord.id).Nodup) :
    d.settleRecord id outcome now =
      match lookUp DeliveryRecord.id id d.tables.records with
      | none => .error (.entityNotFound .deliveryRecord id)
      | some r =>
        if r.status = .pending then
          .ok (d.putRecord { r with status := outcome, updatedAt := now.naive }, true)
        else .ok (d, false) := by
  have hid : ∀ r : DeliveryRecord, r.id ≠ id → (settleUpdate id outcome).changed? now r = none := by
    intro r hr
    rw [SqlUpdate.changed?_settle, if_neg fun h => hr h.1]
  simp only [settleRecord, ho, Bool.not_true, Bool.false_eq_true, if_false]
  cases hrow : lookUp DeliveryRecord.id id d.tables.records with
  | none =>
      rw [SqlUpdate.run_of_absent hid hrow]
      rfl
  | some r =>
      have hkey : r.id = id := key_of_lookUp hrow
      have hrun := SqlUpdate.run_of_lookUp hkeys hid hrow
      have hchanged := SqlUpdate.changed?_settle id now r outcome
      by_cases hs : r.status = .pending
      · rw [if_pos ⟨hkey, hs⟩] at hchanged
        rw [hrun.2 _ hchanged hkey]
        exact (if_pos hs).symm
      · rw [if_neg fun h => hs h.2] at hchanged
        rw [hrun.1 hchanged]
        exact (if_neg hs).symm

theorem settleRecord_of_not_outcome {outcome : DeliveryStatus} (ho : ¬outcome.isOutcome) :
    d.settleRecord id outcome now = .error (.notAnOutcome outcome.qualified) := by
  simp only [settleRecord, ho, Bool.not_false, if_true]

end Database

/-! ## Both stores -/

namespace Campaign

/-- What a campaign counts: its state, the size of its audience and its two
    counters. -/
def tally (c : Campaign) : CampaignStatus × Int × Int × Int :=
  (c.status, c.audienceSize, c.sentCount, c.failedCount)

variable {row c : Campaign}

theorem tally_eq_iff : row.tally = c.tally ↔
    row.status = c.status ∧ row.audienceSize = c.audienceSize ∧ row.sentCount = c.sentCount ∧
      row.failedCount = c.failedCount := by
  simp only [tally, Prod.mk.injEq]

theorem outcomeCount_of_tally (h : row.tally = c.tally) : row.outcomeCount = c.outcomeCount := by
  rcases tally_eq_iff.1 h with ⟨-, -, hsent, hfailed⟩
  rw [outcomeCount, outcomeCount, hsent, hfailed]

/-- What counts the same counts the same with one more outcome. -/
theorem tally_count (h : row.tally = c.tally) (outcome : DeliveryStatus) (now now' : Timestamp) :
    (row.count outcome now).tally = (c.count outcome now').tally := by
  rcases tally_eq_iff.1 h with ⟨hstatus, hsize, hsent, hfailed⟩
  cases outcome <;>
    simp only [count, tally, hstatus, hsize, hsent, hfailed]

/-- What counts the same is completed at the same moment. -/
theorem tally_completeIfExhausted (h : row.tally = c.tally) (now now' : Timestamp) :
    (row.completeIfExhausted now).1.tally = (c.completeIfExhausted now').1.tally ∧
      (row.completeIfExhausted now).2 = (c.completeIfExhausted now').2 := by
  rcases tally_eq_iff.1 h with ⟨hstatus, hsize, hsent, hfailed⟩
  have hcount := outcomeCount_of_tally h
  by_cases hopen : c.status = .sending ∧ c.audienceSize ≤ c.outcomeCount
  · rw [completeIfExhausted_of_open now' hopen.1 hopen.2,
      completeIfExhausted_of_open now (hstatus.trans hopen.1) (by rw [hsize, hcount]; exact hopen.2)]
    simp only [tally, hsize, hsent, hfailed, and_self]
  · rw [completeIfExhausted_of_not now' hopen,
      completeIfExhausted_of_not now (by rwa [hstatus, hsize, hcount])]
    exact ⟨h, rfl⟩

end Campaign

/-- A row and a campaign in memory with one identifier that count the same. -/
def CountAlike (id : Uuid) (d : Database) (m : Memory) : Prop :=
  ∃ row c, lookUp Campaign.id id d.tables.campaigns = some row ∧
    lookUp Campaign.id id m.tables.campaigns = some c ∧ row.tally = c.tally

/-- A row and a record in memory with one identifier that are in one state. -/
def SettledAlike (id : Uuid) (d : Database) (m : Memory) : Prop :=
  ∃ row r, lookUp DeliveryRecord.id id d.tables.records = some row ∧
    lookUp DeliveryRecord.id id m.tables.records = some r ∧ row.status = r.status

/-- An operation that both stores carry out with the same report and that leaves
    them alike. Where the report is that nothing was changed, both stores are as
    they were, the times of change included. -/
def SameStep {α : Type} (alike : Database → Memory → Prop) (changed : α → Bool) (d : Database)
    (m : Memory) (x : Except Fault (Database × α)) (y : Except Fault (Memory × α)) : Prop :=
  ∃ d' m' report, x = .ok (d', report) ∧ y = .ok (m', report) ∧ alike d' m' ∧
    (changed report = false → d' = d ∧ m' = m)

theorem Memory.putCampaign_of_lookUp {m : Memory} {id : Uuid} {c : Campaign}
    (h : lookUp Campaign.id id m.tables.campaigns = some c) : m.putCampaign c = m := by
  have hself : lookUp Campaign.id c.id m.tables.campaigns = some c := by
    rw [key_of_lookUp h]
    exact h
  rw [putCampaign, withTables, upsert_of_lookUp hself]

section

variable {d : Database} {m : Memory} {id : Uuid}

theorem CountAlike.put {row c : Campaign} (hrow : row.id = id) (hc : c.id = id)
    (h : row.tally = c.tally) : CountAlike id (d.putCampaign row) (m.putCampaign c) := by
  refine ⟨row, c, ?_, ?_, h⟩
  · exact (lookUp_upsert id row _).trans (if_pos hrow)
  · exact (lookUp_upsert id c _).trans (if_pos hc)

theorem SettledAlike.put {row r : DeliveryRecord} (hrow : row.id = id) (hr : r.id = id)
    (h : row.status = r.status) : SettledAlike id (d.putRecord row) (m.putRecord r) := by
  refine ⟨row, r, ?_, ?_, h⟩
  · exact (lookUp_upsert id row _).trans (if_pos hrow)
  · exact (lookUp_upsert id r _).trans (if_pos hr)

variable (hkeys : (d.tables.campaigns.map Campaign.id).Nodup) (halike : CountAlike id d m)
  (now now' : Timestamp)

include hkeys halike

/-- Both stores start a campaign, or none of them does. -/
theorem sameStep_markSending :
    SameStep (CountAlike id) Option.isSome d m
      ((d.markSending id now).map fun x => (x.1, x.2.map Campaign.tally))
      ((m.markSending id now').map fun x => (x.1, x.2.map Campaign.tally)) := by
  have hsame := halike
  rcases halike with ⟨row, c, hrow, hc, htally⟩
  have hrowid : row.id = id := key_of_lookUp hrow
  have hcid : c.id = id := key_of_lookUp hc
  rcases Campaign.tally_eq_iff.1 htally with ⟨hstatus, hsize, hsent, hfailed⟩
  have hstarted : ({ row with status := .sending, updatedAt := now.naive } : Campaign).tally =
      ({ c with status := .sending, updatedAt := now' } : Campaign).tally := by
    simp only [Campaign.tally, hsize, hsent, hfailed]
  rw [d.markSending_eq id now hkeys, m.markSending_eq id now', hrow, hc]
  simp only [hstatus]
  by_cases hs : c.status = .pending
  · rw [if_pos hs, if_pos hs]
    simp only [Except.map, Option.map_some, hstarted]
    exact ⟨_, _, _, rfl, rfl, CountAlike.put hrowid hcid hstarted, nofun⟩
  · rw [if_neg hs, if_neg hs]
    exact ⟨d, m, none, rfl, rfl, hsame, fun _ => ⟨rfl, rfl⟩⟩

/-- Both stores put a campaign back, or none of them does. -/
theorem sameStep_release {c : Campaign} (hc : lookUp Campaign.id id m.tables.campaigns = some c) :
    SameStep (CountAlike id) (fun _ => decide (c.status = .sending ∧ c.outcomeCount = 0)) d m
      (.ok ((d.updateCampaigns (releaseUpdate id) now).1, ()))
      ((m.releaseToPending id now').map fun x => (x, ())) := by
  have hsame := halike
  rcases halike with ⟨row, c', hrow, hc', htally⟩
  cases hc.symm.trans hc'
  have hrowid : row.id = id := key_of_lookUp hrow
  have hcid : c.id = id := key_of_lookUp hc
  rcases Campaign.tally_eq_iff.1 htally with ⟨hstatus, hsize, hsent, hfailed⟩
  have hcount := Campaign.outcomeCount_of_tally htally
  rw [d.releaseToPending_eq id now hkeys, m.releaseToPending_eq id now', hrow, hc]
  simp only [hstatus, hcount]
  by_cases hopen : c.status = .sending ∧ c.outcomeCount = 0
  · have hreleased : ({ row with status := .pending, updatedAt := now.naive } : Campaign).tally =
        ({ c with status := .pending, updatedAt := now' } : Campaign).tally := by
      simp only [Campaign.tally, hsize, hsent, hfailed]
    rw [if_pos hopen, if_pos hopen, decide_eq_true hopen]
    exact ⟨_, _, (), rfl, rfl, CountAlike.put hrowid hcid hreleased, nofun⟩
  · rw [if_neg hopen, if_neg hopen]
    exact ⟨d, m, (), rfl, rfl, hsame, fun _ => ⟨rfl, rfl⟩⟩

/-- Both stores count an outcome, and complete the campaign with it, or none of
    them does. -/
theorem sameStep_recordOutcome {outcome : DeliveryStatus} (ho : outcome.isOutcome) :
    SameStep (CountAlike id) CounterUpdate.counted d m (d.recordOutcome id outcome now)
      (m.recordOutcome id outcome now') := by
  have hsame := halike
  rcases halike with ⟨row, c, hrow, hc, htally⟩
  rcases Campaign.tally_eq_iff.1 htally with ⟨hstatus, hsize, -, -⟩
  rw [d.recordOutcome_eq id now ho hkeys, m.recordOutcome_eq id outcome now', hrow, hc]
  simp only [hstatus, Campaign.outcomeCount_of_tally htally, hsize]
  by_cases hopen : c.status = .sending ∧ c.outcomeCount < c.audienceSize
  · have hcounted := Campaign.tally_count htally outcome now.naive now'
    rcases Campaign.tally_completeIfExhausted hcounted now.naive now' with ⟨hafter, hcompleted⟩
    have hid : ∀ (x : Campaign) (t : Timestamp), x.id = id →
        ((x.count outcome t).completeIfExhausted t).1.id = id := by
      intro x t hx
      rw [(Campaign.completeIfExhausted_keeps t).1]
      cases outcome <;> exact hx
    rw [if_pos hopen, Campaign.recordOutcome_of_open now' ho hopen.1 hopen.2, ← hcompleted]
    refine ⟨_, _, _, rfl, rfl, ?_, nofun⟩
    exact CountAlike.put (hid row now.naive (key_of_lookUp hrow)) (hid c now' (key_of_lookUp hc))
      hafter
  · rw [if_neg hopen, Campaign.recordOutcome_of_not now' ho hopen]
    refine ⟨d, m, ⟨false, false⟩, rfl, ?_, hsame, fun _ => ⟨rfl, rfl⟩⟩
    simp only [Except.map, Memory.putCampaign_of_lookUp hc]

/-- Both stores complete a campaign, or none of them does. -/
theorem sameStep_completeIfExhausted :
    SameStep (CountAlike id) (fun completed => completed) d m
      (.ok (d.completeIfExhausted id now)) (m.completeIfExhausted id now') := by
  have hsame := halike
  rcases halike with ⟨row, c, hrow, hc, htally⟩
  rw [d.completeIfExhausted_eq id now hkeys, m.completeIfExhausted_eq id now', hrow, hc]
  rcases Campaign.tally_completeIfExhausted htally now.naive now' with ⟨hafter, hcompleted⟩
  simp only [hcompleted]
  by_cases hlast : (c.completeIfExhausted now').2 = true
  · rw [if_pos hlast, hlast]
    refine ⟨_, _, true, rfl, rfl, CountAlike.put ?_ ?_ hafter, nofun⟩
    · exact (Campaign.completeIfExhausted_keeps now.naive).1.trans (key_of_lookUp hrow)
    · exact (Campaign.completeIfExhausted_keeps now').1.trans (key_of_lookUp hc)
  · have hself : (c.completeIfExhausted now').1 = c := by
      by_cases hopen : c.status = .sending ∧ c.audienceSize ≤ c.outcomeCount
      · exact absurd (by rw [Campaign.completeIfExhausted_of_open now' hopen.1 hopen.2]) hlast
      · rw [Campaign.completeIfExhausted_of_not now' hopen]
    rw [if_neg hlast, hself, Memory.putCampaign_of_lookUp hc, Bool.eq_false_iff.2 hlast]
    exact ⟨d, m, false, rfl, rfl, hsame, fun _ => ⟨rfl, rfl⟩⟩

omit hkeys halike

/-- Both stores settle a record, or none of them does. -/
theorem sameStep_settleRecord (hkeys : (d.tables.records.map DeliveryRecord.id).Nodup)
    (halike : SettledAlike id d m) {outcome : DeliveryStatus} (ho : outcome.isOutcome) :
    SameStep (SettledAlike id) (fun settled => settled) d m (d.settleRecord id outcome now)
      (m.settleRecord id outcome now') := by
  have hsame := halike
  rcases halike with ⟨row, r, hrow, hr, hstatus⟩
  have hrowid : row.id = id := key_of_lookUp hrow
  have hrid : r.id = id := key_of_lookUp hr
  rw [d.settleRecord_eq id now ho hkeys, m.settleRecord_eq id outcome now' ho, hrow, hr]
  simp only [hstatus]
  by_cases hs : r.status = .pending
  · rw [if_pos hs, if_pos hs]
    exact ⟨_, _, true, rfl, rfl, SettledAlike.put hrowid hrid rfl, nofun⟩
  · rw [if_neg hs, if_neg hs]
    exact ⟨d, m, false, rfl, rfl, hsame, fun _ => ⟨rfl, rfl⟩⟩

/-- What is no outcome is turned down by both stores, with the same failure. -/
theorem recordOutcome_refused (halike : CountAlike id d m) {outcome : DeliveryStatus}
    (ho : ¬outcome.isOutcome) :
    ∃ f, d.recordOutcome id outcome now = .error f ∧ m.recordOutcome id outcome now' = .error f := by
  rcases halike with ⟨row, c, -, hc, -⟩
  refine ⟨_, d.recordOutcome_of_not_outcome id now ho, ?_⟩
  rw [m.recordOutcome_eq id outcome now', hc]
  simp only [Campaign.recordOutcome_of_not_outcome now' ho, Except.map]

theorem settleRecord_refused (halike : SettledAlike id d m) {outcome : DeliveryStatus}
    (ho : ¬outcome.isOutcome) :
    ∃ f, d.settleRecord id outcome now = .error f ∧ m.settleRecord id outcome now' = .error f := by
  rcases halike with ⟨row, r, -, hr, -⟩
  refine ⟨_, d.settleRecord_of_not_outcome id now ho, ?_⟩
  simp only [Memory.settleRecord, hr, bind, Except.bind, DeliveryRecord.settle, ho, Bool.not_false,
    if_true]

/-- The statements of the database agree with the operations of the entities in
    memory. On a row and a campaign that count the same, in whatever state and
    with whatever counters, both stores claim the campaign or none does, and so
    on for putting it back, counting an outcome and completing it. They report
    the same and count the same afterwards, and where nothing is reported to be
    changed they are as they were. The same holds of settling a record. -/
theorem updates_agree (hcampaigns : (d.tables.campaigns.map Campaign.id).Nodup)
    (hrecords : (d.tables.records.map DeliveryRecord.id).Nodup) :
    (∀ id, CountAlike id d m →
      SameStep (CountAlike id) Option.isSome d m
        ((d.markSending id now).map fun x => (x.1, x.2.map Campaign.tally))
        ((m.markSending id now').map fun x => (x.1, x.2.map Campaign.tally)) ∧
      (∀ c, lookUp Campaign.id id m.tables.campaigns = some c →
        SameStep (CountAlike id) (fun _ => decide (c.status = .sending ∧ c.outcomeCount = 0)) d m
          (.ok ((d.updateCampaigns (releaseUpdate id) now).1, ()))
          ((m.releaseToPending id now').map fun x => (x, ()))) ∧
      (∀ outcome : DeliveryStatus, outcome.isOutcome →
        SameStep (CountAlike id) CounterUpdate.counted d m (d.recordOutcome id outcome now)
          (m.recordOutcome id outcome now')) ∧
      (∀ outcome : DeliveryStatus, ¬outcome.isOutcome →
        ∃ f, d.recordOutcome id outcome now = .error f ∧
          m.recordOutcome id outcome now' = .error f) ∧
      SameStep (CountAlike id) (fun completed => completed) d m
        (.ok (d.completeIfExhausted id now)) (m.completeIfExhausted id now')) ∧
    ∀ id, SettledAlike id d m →
      (∀ outcome : DeliveryStatus, outcome.isOutcome →
        SameStep (SettledAlike id) (fun settled => settled) d m (d.settleRecord id outcome now)
          (m.settleRecord id outcome now')) ∧
      ∀ outcome : DeliveryStatus, ¬outcome.isOutcome →
        ∃ f, d.settleRecord id outcome now = .error f ∧
          m.settleRecord id outcome now' = .error f := by
  refine ⟨fun id halike => ⟨?_, ?_, ?_, ?_, ?_⟩, fun id halike => ⟨?_, ?_⟩⟩
  · exact sameStep_markSending hcampaigns halike now now'
  · exact fun c hc => sameStep_release hcampaigns halike now now' hc
  · exact fun outcome ho => sameStep_recordOutcome hcampaigns halike now now' ho
  · exact fun outcome ho => recordOutcome_refused now now' halike ho
  · exact sameStep_completeIfExhausted hcampaigns halike now now'
  · exact fun outcome ho => sameStep_settleRecord now now' hrecords halike ho
  · exact fun outcome ho => settleRecord_refused now now' halike ho

end

/-- A campaign that lacks one outcome, kept by both stores with different times of
    change. The outcome is counted and completes it, in both. -/
theorem updates_agree_sample :
    let c : Campaign := { (default : Campaign) with
      audienceSize := 2, status := .sending, failedCount := 1 }
    let now : Timestamp := ⟨⟨2024, 6, 1⟩, 0, some 0⟩
    let d := Database.empty.putCampaign { c with updatedAt := now }
    let m := Memory.empty.putCampaign c
    CountAlike c.id d m ∧
      SameStep (CountAlike c.id) CounterUpdate.counted d m (d.recordOutcome c.id .sent now)
        (m.recordOutcome c.id .sent now) ∧
      ∃ d', d.recordOutcome c.id .sent now = .ok (d', ⟨true, true⟩) := by
  intro c now d m
  have halike : CountAlike c.id d m := ⟨_, _, rfl, rfl, rfl⟩
  have hcampaigns : (d.tables.campaigns.map Campaign.id).Nodup := by decide
  have hrecords : (d.tables.records.map DeliveryRecord.id).Nodup := by decide
  have hstep := ((updates_agree now now hcampaigns hrecords).1 c.id halike).2.2.1 .sent rfl
  refine ⟨halike, hstep, ?_⟩
  rw [d.recordOutcome_eq c.id now rfl hcampaigns]
  exact ⟨_, rfl⟩

end Outreach
