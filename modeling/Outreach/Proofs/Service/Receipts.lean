import Outreach.Proofs.Campaign.Balance
import Outreach.Proofs.Store.Memory
import Outreach.Service.Receipts

/-!
# What Receipts Leave Behind

A receipt changes a record at most once and tells its campaign. What a receipt
does to the store is a function of the store, the receipt and the time alone,
and on the records it acts one by one: a pending record with the identifier of a
valid receipt is settled, every other record stays as it is. After some receipts
a record is therefore in the state of the first valid one for it, and pending if
there was none.

The campaign counts along. While its records are no more than its audience, there
is room for every outcome, so that its counters are the numbers of its sent and
its failed records, whatever the order of the receipts.

## Main definitions

* `Memory.received`: The store after a receipt.
* `DeliveryRecord.settledBy`: A record after a receipt.
* `Receipts.outcomeOf`: The first valid outcome for a record.
* `Memory.Tallied`: A campaign whose counters are those of its records.

## Theorems

* `Receipts.ends_record`: A receipt leaves `Memory.received` behind.
* `Memory.records_received`: What a receipt does to the records.
* `Memory.received_of_idle`: Duplicate, unknown and invalid receipts do nothing.
* `Memory.Tallied.received`: The counters stay those of the records.
* `Receipts.settledStatus_cons`: The first valid outcome is decisive.
-/

namespace Outreach

namespace Memory

/-- The store after an outcome has been counted for a campaign, as far as there
    is one. -/
def counted (m : Memory) (id : Uuid) (outcome : DeliveryStatus) (now : Timestamp) : Memory :=
  match m.recordOutcome id outcome now with
  | .ok (after, _) => after
  | .error _ => m

/-- The store after a receipt. -/
def received (m : Memory) (x : Receipt) (now : Timestamp) : Memory :=
  match lookUp DeliveryRecord.id x.recordId m.tables.records with
  | none => m
  | some r =>
    if x.outcome.isOutcome ∧ r.status = .pending then
      (m.putRecord { r with status := x.outcome, updatedAt := now }).counted r.campaignId x.outcome
        now
    else m

end Memory

/-- A receipt that changes nothing: it is invalid, its record is unknown, or its
    record was settled before. -/
def Receipt.Idle (x : Receipt) (m : Memory) : Prop :=
  ¬x.outcome.isOutcome ∨
    ∀ r, lookUp DeliveryRecord.id x.recordId m.tables.records = some r → r.status ≠ .pending

namespace Memory

theorem received_of_idle {m : Memory} {x : Receipt} (h : x.Idle m) (now : Timestamp) :
    m.received x now = m := by
  rw [received]
  cases hr : lookUp DeliveryRecord.id x.recordId m.tables.records with
  | none => rfl
  | some r =>
      refine if_neg fun hopen => ?_
      rcases h with h | h
      · exact h hopen.1
      · exact h r hr hopen.2

theorem received_of_pending {m : Memory} {x : Receipt} {r : DeliveryRecord}
    (ho : x.outcome.isOutcome) (hr : lookUp DeliveryRecord.id x.recordId m.tables.records = some r)
    (hp : r.status = .pending) (now : Timestamp) :
    m.received x now =
      (m.putRecord { r with status := x.outcome, updatedAt := now }).counted r.campaignId
        x.outcome now := by
  rw [received, hr]
  exact if_pos ⟨ho, hp⟩

end Memory

namespace Receipts

/-- A receipt that is not refused for its outcome leaves this store behind. -/
theorem ends_apply {w : World Memory} {x : Receipt} (ho : x.outcome.isOutcome) :
    Action.Ends (apply x.recordId x.outcome) w
      (fun _ v => v.store = w.store.received x w.time)
      (fun _ v => v.store = w.store.received x w.time) := by
  simp only [apply, find, Action.ends_bind, Repository.recordById, Memory.ends_ask_ok]
  cases hr : lookUp DeliveryRecord.id x.recordId w.store.tables.records with
  | none =>
      have hidle : x.Idle w.store := Or.inr fun r hsome => by
        rw [hr] at hsome
        cases hsome
      rw [Memory.received_of_idle hidle]
      exact rfl
  | some r =>
      simp only [settle, Action.ends_pure, Action.ends_bind, Action.ends_capture,
        Repository.settleRecord]
      by_cases hp : r.status = .pending
      · rw [Memory.received_of_pending ho hr hp, Memory.ends_change_of_ok
          (by rw [Memory.settleRecord_eq _ _ _ _ ho, hr]; exact if_pos hp)]
        -- The record is settled, and its campaign told.
        simp only [Action.ends_pure, if_true, Action.ends_bind, Repository.recordOutcome,
          Memory.counted]
        cases hc : (w.store.putRecord { r with status := x.outcome, updatedAt := w.time }).recordOutcome
            r.campaignId x.outcome w.time with
        | error f => rw [Memory.ends_change_of_error hc]
        | ok y => rw [Memory.ends_change_of_ok hc]
      · have hidle : x.Idle w.store := Or.inr (by
          rw [hr]
          rintro _ ⟨rfl⟩
          exact hp)
        rw [Memory.received_of_idle hidle, Memory.ends_change_of_ok
          (by rw [Memory.settleRecord_eq _ _ _ _ ho, hr]; exact if_neg hp)]
        exact rfl

/-- However a receipt ends, this is the store that it leaves behind. -/
theorem ends_record (w : World Memory) (x : Receipt) :
    Action.Ends (record x.recordId x.outcome) w
      (fun _ v => v.store = w.store.received x w.time)
      (fun _ v => v.store = w.store.received x w.time) := by
  simp only [record, ensureOutcome, Action.ends_bind, Action.ends_ite, Action.ends_throw,
    Action.ends_pure, Memory.ends_unitOfWork, Bool.not_eq_true', Bool.not_eq_false]
  refine ⟨fun ho => ?_, fun ho => ?_⟩
  · have hidle : x.Idle w.store := Or.inl (by rw [ho]; exact Bool.false_ne_true)
    rw [Memory.received_of_idle hidle]
  · refine (ends_apply ho).mono ?_ fun _ _ h => h
    rintro ⟨record, update⟩ v h
    -- Metrics and log come last, aside from the store.
    cases update with
    | none => exact h
    | some update =>
        simp only [noteUpdate, Action.ends_bind, Action.ends_measure, Action.ends_ite,
          Action.ends_note, Action.ends_pure]
        exact ⟨fun _ => ⟨fun _ => h, fun _ => h⟩, fun _ => ⟨fun _ => h, fun _ => h⟩⟩

end Receipts

/-! ## The records -/

/-- A record after a receipt. -/
def DeliveryRecord.settledBy (r : DeliveryRecord) (x : Receipt) (now : Timestamp) :
    DeliveryRecord :=
  if x.outcome.isOutcome ∧ r.id = x.recordId ∧ r.status = .pending then
    { r with status := x.outcome, updatedAt := now }
  else r

/-- The number of records of a campaign that are in some state. -/
def Memory.outcomes (m : Memory) (id : Uuid) (status : DeliveryStatus) : Nat :=
  m.tables.records.countP fun r => decide (r.campaignId = id) && decide (r.status = status)

namespace Memory

variable {m : Memory} {x : Receipt} {r : DeliveryRecord} {id : Uuid} {now : Timestamp}

theorem records_counted (id : Uuid) (outcome : DeliveryStatus) :
    (m.counted id outcome now).tables.records = m.tables.records := by
  rw [counted, recordOutcome_eq]
  cases lookUp Campaign.id id m.tables.campaigns with
  | none => rfl
  | some c =>
      cases h : c.recordOutcome outcome now with
      | error f => simp only [h, Except.map]
      | ok y =>
          simp only [h, Except.map]
          rfl

/-- A receipt settles the records that it is for, one by one. -/
theorem records_received (hkeys : (m.tables.records.map DeliveryRecord.id).Nodup) :
    (m.received x now).tables.records = m.tables.records.map fun r => r.settledBy x now := by
  by_cases hidle : x.Idle m
  · -- No record is pending and meant by the receipt.
    have hsame : ∀ r ∈ m.tables.records, r.settledBy x now = r := by
      intro r hr
      refine if_neg fun hopen => ?_
      rcases hidle with h | h
      · exact h hopen.1
      · exact h r (hopen.2.1 ▸ lookUp_of_mem hkeys hr) hopen.2.2
    rw [received_of_idle hidle, List.map_congr_left hsame, List.map_id']
  · rw [Receipt.Idle, not_or, not_not] at hidle
    rcases hidle with ⟨ho, hr⟩
    simp only [not_forall, not_not] at hr
    rcases hr with ⟨r, hr, hp⟩
    have hid : r.id = x.recordId := key_of_lookUp hr
    have hknown : r.id ∈ m.tables.records.map DeliveryRecord.id := hid ▸ mem_keys_of_lookUp hr
    have hmap := upsert_eq_map (a := { r with status := x.outcome, updatedAt := now }) hkeys hknown
    rw [received_of_pending ho hr hp, records_counted]
    refine hmap.trans (List.map_congr_left fun s hs => ?_)
    by_cases hsid : s.id = r.id
    · have hsame : s = r := List.inj_on_of_nodup_map hkeys hs (mem_of_lookUp hr) hsid
      rw [if_pos hsid, hsame, DeliveryRecord.settledBy, if_pos ⟨ho, hid, hp⟩]
    · rw [if_neg hsid, DeliveryRecord.settledBy, if_neg fun h => hsid (h.2.1.trans hid.symm)]

/-! ## The counters -/

/-- A campaign whose counters are those of its records, as far as its audience
    has room for them, in a store all of whose records have a campaign. -/
structure Tallied (m : Memory) (id : Uuid) (size : Int) : Prop where
  keys : (m.tables.records.map DeliveryRecord.id).Nodup
  known : ∀ r ∈ m.tables.records, ∃ c, lookUp Campaign.id r.campaignId m.tables.campaigns = some c
  campaign : ∃ c, lookUp Campaign.id id m.tables.campaigns = some c ∧ c.audienceSize = size ∧
    c.status ≠ .pending ∧ c.Balanced (m.outcomes id .sent) (m.outcomes id .failed) True

/-- A record that is settled is one more in its state. -/
theorem outcomes_putRecord (hr : lookUp DeliveryRecord.id x.recordId m.tables.records = some r)
    (hp : r.status = .pending) {status : DeliveryStatus} (hs : status ≠ .pending) :
    (m.putRecord { r with status := x.outcome, updatedAt := now }).outcomes id status =
      m.outcomes id status + if r.campaignId = id ∧ x.outcome = status then 1 else 0 := by
  have hself : lookUp DeliveryRecord.id r.id m.tables.records = some r := by
    rw [key_of_lookUp hr]
    exact hr
  have hcount := countP_upsert_of_known (a := { r with status := x.outcome, updatedAt := now })
    (fun r => decide (r.campaignId = id) && decide (r.status = status)) hself
  have hbefore : ¬(decide (r.campaignId = id) && decide (r.status = status)) = true := by
    rw [Bool.and_eq_true, decide_eq_true_eq, decide_eq_true_eq, hp]
    exact fun h => hs h.2.symm
  rw [if_neg hbefore, Nat.add_zero] at hcount
  simp only [Bool.and_eq_true, decide_eq_true_eq] at hcount
  exact hcount

/-- The counters stay those of the records, whatever receipt arrives. -/
theorem Tallied.received {size : Int} (h : m.Tallied id size) (x : Receipt) (now : Timestamp) :
    (m.received x now).Tallied id size := by
  by_cases hidle : x.Idle m
  · rw [received_of_idle hidle]
    exact h
  rw [Receipt.Idle, not_or, not_not] at hidle
  rcases hidle with ⟨ho, hr⟩
  simp only [not_forall, not_not] at hr
  rcases hr with ⟨r, hr, hp⟩
  rcases h with ⟨hkeys, hknown, c, hc, hsize, hstarted, hbalanced⟩
  rcases hknown r (mem_of_lookUp hr) with ⟨c₀, hc₀⟩
  rcases c₀.exists_recordOutcome now ho with ⟨after, update, hafter⟩
  have hkeep := Campaign.recordOutcome_keeps hafter
  have hafterid : after.id = r.campaignId := hkeep.1.trans (key_of_lookUp hc₀)
  -- The record is settled, and its own campaign counts it.
  have hreceived : m.received x now =
      (m.putRecord { r with status := x.outcome, updatedAt := now }).putCampaign after := by
    have hcount : (m.putRecord { r with status := x.outcome, updatedAt := now }).recordOutcome
        r.campaignId x.outcome now = .ok
          ((m.putRecord { r with status := x.outcome, updatedAt := now }).putCampaign after,
            update) := by
      -- Settling a record leaves the campaigns alone.
      have hcampaign : lookUp Campaign.id r.campaignId
          (m.putRecord { r with status := x.outcome, updatedAt := now }).tables.campaigns =
            some c₀ := hc₀
      rw [recordOutcome_eq, hcampaign]
      simp only [hafter, Except.map]
    rw [received_of_pending ho hr hp, counted, hcount]
  have hlook : ∀ u, lookUp Campaign.id u (m.received x now).tables.campaigns =
      if r.campaignId = u then some after else lookUp Campaign.id u m.tables.campaigns := by
    intro u
    rw [hreceived, ← hafterid]
    exact lookUp_upsert u after _
  have hcount : ∀ status : DeliveryStatus, status ≠ .pending →
      (m.received x now).outcomes id status =
        m.outcomes id status + if r.campaignId = id ∧ x.outcome = status then 1 else 0 := by
    intro status hs
    rw [hreceived]
    exact outcomes_putRecord hr hp hs
  refine ⟨?_, fun s hs => ?_, ?_⟩
  · rw [hreceived]
    exact nodup_keys_upsert _ hkeys
  · rw [hlook]
    by_cases hsame : r.campaignId = s.campaignId
    · exact ⟨after, if_pos hsame⟩
    · rw [if_neg hsame]
      -- Settled or not, the record has a counterpart from before.
      rw [records_received hkeys] at hs
      rcases List.mem_map.1 hs with ⟨s₀, hs₀, rfl⟩
      have hcampaign : (s₀.settledBy x now).campaignId = s₀.campaignId := by
        rw [DeliveryRecord.settledBy]
        split <;> rfl
      rw [hcampaign]
      exact hknown s₀ hs₀
  · rw [hcount .sent (by decide), hcount .failed (by decide), hlook]
    by_cases hsame : r.campaignId = id
    · rw [hsame] at hc₀
      cases hc.symm.trans hc₀
      simp only [hsame, if_true, true_and]
      exact ⟨after, rfl, hkeep.2.trans hsize, Campaign.status_recordOutcome hafter hstarted,
        hbalanced.counted hstarted hafter⟩
    · simp only [hsame, if_false, false_and, Nat.add_zero]
      exact ⟨c, hc, hsize, hstarted, hbalanced⟩

end Memory

/-! ## Several receipts -/

namespace Receipts

/-- The outcome of the first valid receipt for a record; pending if there is
    none. -/
def outcomeOf (xs : List Receipt) (id : Uuid) : DeliveryStatus :=
  ((xs.find? fun x => decide (x.recordId = id) && x.outcome.isOutcome).map Receipt.outcome).getD
    .pending

/-- The state of a record after some receipts. -/
def settledStatus (xs : List Receipt) (r : DeliveryRecord) : DeliveryStatus :=
  if r.status = .pending then outcomeOf xs r.id else r.status

theorem outcomeOf_ne_pending {xs : List Receipt} {id : Uuid} :
    outcomeOf xs id ≠ .pending ↔ ∃ x ∈ xs, x.recordId = id ∧ x.outcome.isOutcome := by
  rw [outcomeOf]
  cases h : xs.find? fun x => decide (x.recordId = id) && x.outcome.isOutcome with
  | none =>
      rw [List.find?_eq_none] at h
      simp only [Bool.and_eq_true, decide_eq_true_eq] at h
      refine ⟨fun hne => absurd rfl hne, ?_⟩
      rintro ⟨x, hx, hid, ho⟩
      exact absurd ⟨hid, ho⟩ (h x hx)
  | some x =>
      have hx := List.find?_some h
      rw [Bool.and_eq_true, decide_eq_true_eq] at hx
      refine ⟨fun _ => ⟨x, List.mem_of_find?_eq_some h, hx⟩, fun _ hp => ?_⟩
      change x.outcome = .pending at hp
      rw [hp] at hx
      cases hx.2

theorem settledStatus_nil (r : DeliveryRecord) : settledStatus [] r = r.status := by
  rw [settledStatus]
  by_cases h : r.status = .pending
  · rw [if_pos h, h]
    rfl
  · rw [if_neg h]

/-- The first receipt goes ahead of the others. -/
theorem settledStatus_cons (x : Receipt) (xs : List Receipt) (r : DeliveryRecord)
    (now : Timestamp) : settledStatus (x :: xs) r = settledStatus xs (r.settledBy x now) := by
  rw [DeliveryRecord.settledBy]
  by_cases hp : r.status = .pending
  · by_cases hx : x.outcome.isOutcome ∧ r.id = x.recordId
    · have hne : x.outcome ≠ .pending := by
        intro h
        rw [h] at hx
        cases hx.1
      rw [if_pos ⟨hx.1, hx.2, hp⟩]
      simp only [settledStatus, hp, if_true, if_neg hne, outcomeOf, List.find?_cons, hx.1, hx.2,
        decide_true, Bool.and_self, Option.map_some, Option.getD_some]
    · rw [if_neg fun h => hx ⟨h.1, h.2.1⟩]
      have hskip : (decide (x.recordId = r.id) && x.outcome.isOutcome) = false := by
        rw [Bool.eq_false_iff, ne_eq, Bool.and_eq_true, decide_eq_true_eq]
        exact fun h => hx ⟨h.2, h.1.symm⟩
      simp only [settledStatus, hp, if_true, outcomeOf, List.find?_cons, hskip]
  · rw [if_neg fun h => hp h.2.2, settledStatus, settledStatus, if_neg hp, if_neg hp]

/-- The store after some receipts, each at a time of its own. -/
def receivedAll (m : Memory) (xs : List (Timestamp × Receipt)) : Memory :=
  xs.foldl (fun m x => m.received x.2 x.1) m

theorem tallied_receivedAll {id : Uuid} {size : Int} (xs : List (Timestamp × Receipt)) :
    ∀ {m : Memory}, m.Tallied id size → (receivedAll m xs).Tallied id size := by
  induction xs with
  | nil => exact fun h => h
  | cons x rest ih => exact fun h => ih (h.received x.2 x.1)

/-- After some receipts every record has the first valid outcome for it. -/
theorem records_receivedAll {β : Type} (view : DeliveryRecord → DeliveryStatus → β)
    (hview : ∀ r x now status, view (r.settledBy x now) status = view r status)
    (xs : List (Timestamp × Receipt)) :
    ∀ {m : Memory}, (m.tables.records.map DeliveryRecord.id).Nodup →
      (receivedAll m xs).tables.records.map (fun r => view r r.status) =
        m.tables.records.map fun r => view r (settledStatus (xs.map Prod.snd) r) := by
  induction xs with
  | nil =>
      intro m _
      refine List.map_congr_left fun r _ => ?_
      rw [List.map_nil, settledStatus_nil]
  | cons x rest ih =>
      intro m hkeys
      have hrecords : (m.received x.2 x.1).tables.records =
          m.tables.records.map fun r => r.settledBy x.2 x.1 :=
        Memory.records_received hkeys
      have hids : (m.received x.2 x.1).tables.records.map DeliveryRecord.id =
          m.tables.records.map DeliveryRecord.id := by
        rw [hrecords, List.map_map]
        refine List.map_congr_left fun r _ => ?_
        rw [Function.comp_apply, DeliveryRecord.settledBy]
        split <;> rfl
      have hrest := ih (hids ▸ hkeys)
      rw [hrecords, List.map_map] at hrest
      refine Eq.trans hrest (List.map_congr_left fun r _ => ?_)
      rw [Function.comp_apply, hview, List.map_cons, settledStatus_cons]

end Receipts

end Outreach
