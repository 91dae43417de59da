import Outreach.Proofs.Store.Mirror.Basic

/-!
# Campaigns and Records in Two Stores

A store and its mirror know the same campaigns and records. Both start a campaign or
find that it is not pending, count the same outcomes for it, and complete it with the
same one. Both settle a record or find that it was settled.

## Theorems

* `Mirror.saveCampaign`, `Mirror.markSending`, `Mirror.recordOutcome`,
  `Mirror.completeIfExhausted`: Campaigns.
* `Mirror.saveRecords`, `Mirror.settleRecord`: Records.
* `Mirror.countCustomers`, `Mirror.countOrders`, `Mirror.countCampaigns`,
  `Mirror.countSince`: Counts.
-/

namespace Outreach

/-! ## Campaigns -/

namespace Campaign

theorem id_lasting (c : Campaign) : c.lasting.id = c.id := rfl

variable {row c : Campaign}

/-- What lasts of a campaign is changed with its state. -/
theorem lasting_withStatus (h : row.lasting = c.lasting) (s : CampaignStatus) (t t' : Timestamp) :
    ({ row with status := s, updatedAt := t } : Campaign).lasting =
      ({ c with status := s, updatedAt := t' } : Campaign).lasting :=
  congrArg (fun x : Campaign => { x with status := s }) h

theorem lasting_count (h : row.lasting = c.lasting) (outcome : DeliveryStatus) (t t' : Timestamp) :
    (row.count outcome t).lasting = (c.count outcome t').lasting := by
  cases outcome with
  | sent => exact congrArg (fun x : Campaign => { x with sentCount := x.sentCount + 1 }) h
  | pending => exact congrArg (fun x : Campaign => { x with failedCount := x.failedCount + 1 }) h
  | failed => exact congrArg (fun x : Campaign => { x with failedCount := x.failedCount + 1 }) h

theorem tally_of_lasting (h : row.lasting = c.lasting) : row.tally = c.tally :=
  (congrArg tally h :)

/-- Of two campaigns of which the same lasts both are completed, or none is. -/
theorem lasting_completeIfExhausted (h : row.lasting = c.lasting) (t t' : Timestamp) :
    (row.completeIfExhausted t).1.lasting = (c.completeIfExhausted t').1.lasting ∧
      (row.completeIfExhausted t).2 = (c.completeIfExhausted t').2 := by
  have hopen : (row.status = .sending ∧ row.isExhausted) = (c.status = .sending ∧ c.isExhausted) :=
    (congrArg (fun x : Campaign => x.status = .sending ∧ x.isExhausted = true) h :)
  simp only [completeIfExhausted, hopen]
  by_cases hc : c.status = .sending ∧ c.isExhausted
  · rw [if_pos hc, if_pos hc]
    exact ⟨lasting_withStatus h .completed t t', rfl⟩
  · rw [if_neg hc, if_neg hc]
    exact ⟨h, rfl⟩

end Campaign

namespace Mirror

variable {m : Memory} {d : Database}

theorem campaignKeys (h : Mirror m d) :
    d.tables.campaigns.map Campaign.id = m.tables.campaigns.map Campaign.id :=
  keys_of_views Campaign.id_lasting Campaign.id_lasting h.kept.campaigns

theorem nodup_campaignKeys (h : Mirror m d) : (d.tables.campaigns.map Campaign.id).Nodup := by
  rw [h.campaignKeys]
  exact h.orderly.campaignIds

/-- Both stores know a campaign of which the same lasts, or none of them does. -/
theorem campaign (h : Mirror m d) (id : Uuid) :
    (lookUp Campaign.id id m.tables.campaigns = none ∧
        lookUp Campaign.id id d.tables.campaigns = none) ∨
      ∃ c row, lookUp Campaign.id id m.tables.campaigns = some c ∧
        lookUp Campaign.id id d.tables.campaigns = some row ∧ row.lasting = c.lasting :=
  lookUp_of_views Campaign.id_lasting Campaign.id_lasting h.kept.campaigns id

/-- Campaigns of which the same lasts are stored on both sides. -/
theorem putCampaign (h : Mirror m d) {c row : Campaign} (hlasting : row.lasting = c.lasting)
    (hmessage : c.message.Whole) :
    Mirror (m.putCampaign c) (d.putCampaign row) ∧
      (m.putCampaign c).tables.ids ⊆ c.id :: m.tables.ids := by
  refine ⟨h.withTables ?_ ?_, fun id hid => ?_⟩
  · refine { h.kept with campaigns := ?_ }
    simp only [map_upsert Campaign.id_lasting, hlasting, h.kept.campaigns]
  · refine { h.orderly with messages := fun x hx => ?_, campaignIds := ?_, known := fun r hr => ?_ }
    · rcases mem_upsert hx with rfl | hx
      · exact hmessage
      · exact h.orderly.messages x hx
    · exact nodup_keys_upsert c h.orderly.campaignIds
    · exact mem_keys_upsert.2 (Or.inr (h.orderly.known r hr))
  · simp only [Memory.putCampaign, Memory.withTables, Tables.mem_ids, mem_keys_upsert,
      List.mem_cons] at hid ⊢
    tauto

/-- A campaign that is stored already brings no new identifier. -/
theorem putKnown (h : Mirror m d) {c old row : Campaign} {id : Uuid}
    (hold : lookUp Campaign.id id m.tables.campaigns = some old) (hid : c.id = id)
    (hmessage : c.message = old.message) (hlasting : row.lasting = c.lasting) :
    Mirror (m.putCampaign c) (d.putCampaign row) ∧
      (m.putCampaign c).tables.ids ⊆ m.tables.ids := by
  have hwhole : c.message.Whole := hmessage ▸ h.orderly.messages old (mem_of_lookUp hold)
  rcases h.putCampaign hlasting hwhole with ⟨hmirror, hids⟩
  refine ⟨hmirror, fun x hx => ?_⟩
  rcases List.mem_cons.1 (hids hx) with rfl | hx
  · exact Tables.mem_ids.2 (Or.inr (Or.inr (Or.inl (hid ▸ mem_keys_of_lookUp hold))))
  · exact hx

/-- Both stores take a campaign with a new identifier. -/
theorem saveCampaign (h : Mirror m d) {c : Campaign} (hname : c.name.Whole)
    (hmessage : c.message.Whole)
    (hnumbers : [c.audienceSize, c.sentCount, c.failedCount].all fitsColumn = true)
    (hnew : c.id ∉ m.tables.campaigns.map Campaign.id) (now : Timestamp) :
    ∃ d', d.saveCampaign c now = .ok d' ∧ Mirror (m.putCampaign c) d' ∧
      (m.putCampaign c).tables.ids ⊆ c.id :: m.tables.ids := by
  have habsent : lookUp Campaign.id c.id d.tables.campaigns = none :=
    lookUp_eq_none_iff.2 (by rwa [h.campaignKeys])
  refine ⟨d.putCampaign (Database.campaignRow c), ?_, h.putCampaign rfl hmessage⟩
  simp only [Database.saveCampaign, ensureEncodable_of_whole hname,
    ensureEncodable_of_whole hmessage, habsent, hnumbers, bind, Except.bind, if_true, pure,
    Except.pure]
  rfl

/-- Both stores start a campaign, find that it is not pending, or do not know it. -/
theorem markSending (h : Mirror m d) (id : Uuid) (now : Timestamp) :
    (m.markSending id now = .error (.entityNotFound .campaign id) ∧
        d.markSending id now = .error (.entityNotFound .campaign id)) ∨
      (m.markSending id now = .ok (m, none) ∧ d.markSending id now = .ok (d, none)) ∨
      ∃ m' d' c row, m.markSending id now = .ok (m', some c) ∧
        d.markSending id now = .ok (d', some row) ∧ row.lasting = c.lasting ∧ Mirror m' d' ∧
          m'.tables.ids ⊆ m.tables.ids ∧ id ∈ m'.tables.campaigns.map Campaign.id := by
  rw [m.markSending_eq id now, d.markSending_eq id now h.nodup_campaignKeys]
  rcases h.campaign id with ⟨hc, hrow⟩ | ⟨c, row, hc, hrow, hlasting⟩
  · rw [hc, hrow]
    exact Or.inl ⟨rfl, rfl⟩
  · have hstatus : row.status = c.status := (congrArg Campaign.status hlasting :)
    rw [hc, hrow]
    simp only [hstatus]
    by_cases hp : c.status = .pending
    · have hstarted := Campaign.lasting_withStatus hlasting .sending now.naive now
      have hid : ({ c with status := .sending, updatedAt := now } : Campaign).id = id :=
        (key_of_lookUp hc :)
      rcases h.putKnown hc hid rfl hstarted with ⟨hmirror, hids⟩
      rw [if_pos hp, if_pos hp]
      refine Or.inr (Or.inr ⟨_, _, _, _, rfl, rfl, hstarted, hmirror, hids, ?_⟩)
      exact mem_keys_upsert.2 (Or.inl hid.symm)
    · rw [if_neg hp, if_neg hp]
      exact Or.inr (Or.inl ⟨rfl, rfl⟩)

/-- Both stores count an outcome for a campaign that they know. -/
theorem recordOutcome (h : Mirror m d) {id : Uuid}
    (hknown : id ∈ m.tables.campaigns.map Campaign.id) {outcome : DeliveryStatus} (ho : outcome.isOutcome) (now : Timestamp) :
    ∃ m' d' update, m.recordOutcome id outcome now = .ok (m', update) ∧
      d.recordOutcome id outcome now = .ok (d', update) ∧ Mirror m' d' ∧
        m'.tables.ids ⊆ m.tables.ids := by
  rw [m.recordOutcome_eq id outcome now, d.recordOutcome_eq id now ho h.nodup_campaignKeys]
  rcases h.campaign id with ⟨hc, -⟩ | ⟨c, row, hc, hrow, hlasting⟩
  · exact absurd hknown (lookUp_eq_none_iff.1 hc)
  · have htally := Campaign.tally_of_lasting hlasting
    rcases Campaign.tally_eq_iff.1 htally with ⟨hstatus, hsize, -, -⟩
    rw [hc, hrow]
    simp only [hstatus, hsize, Campaign.outcomeCount_of_tally htally]
    by_cases hopen : c.status = .sending ∧ c.outcomeCount < c.audienceSize
    · have hcounted := Campaign.lasting_count hlasting outcome now.naive now
      rcases Campaign.lasting_completeIfExhausted hcounted now.naive now with ⟨hafter, hcompleted⟩
      rw [if_pos hopen, Campaign.recordOutcome_of_open now ho hopen.1 hopen.2, hcompleted]
      have hkeeps : ((c.count outcome now).completeIfExhausted now).1.id = c.id ∧
          ((c.count outcome now).completeIfExhausted now).1.message = c.message := by
        rw [Campaign.completeIfExhausted]
        cases outcome <;> split <;> exact ⟨rfl, rfl⟩
      rcases h.putKnown hc (hkeeps.1.trans (key_of_lookUp hc)) hkeeps.2 hafter with ⟨hmirror, hids⟩
      exact ⟨_, _, _, rfl, rfl, hmirror, hids⟩
    · rw [if_neg hopen, Campaign.recordOutcome_of_not now ho hopen]
      refine ⟨m, d, _, ?_, rfl, h, List.Subset.refl _⟩
      simp only [Except.map, Memory.putCampaign_of_lookUp hc]

/-- Both stores complete a campaign that they know, or none of them does. -/
theorem completeIfExhausted (h : Mirror m d) {id : Uuid}
    (hknown : id ∈ m.tables.campaigns.map Campaign.id) (now : Timestamp) :
    ∃ m' completed, m.completeIfExhausted id now = .ok (m', completed) ∧
      (d.completeIfExhausted id now).2 = completed ∧ Mirror m' (d.completeIfExhausted id now).1 ∧
        m'.tables.ids ⊆ m.tables.ids := by
  rw [m.completeIfExhausted_eq id now, d.completeIfExhausted_eq id now h.nodup_campaignKeys]
  rcases h.campaign id with ⟨hc, -⟩ | ⟨c, row, hc, hrow, hlasting⟩
  · exact absurd hknown (lookUp_eq_none_iff.1 hc)
  · rcases Campaign.lasting_completeIfExhausted hlasting now.naive now with ⟨hafter, hcompleted⟩
    have hkeeps : (c.completeIfExhausted now).1.id = c.id ∧
        (c.completeIfExhausted now).1.message = c.message := by
      rw [Campaign.completeIfExhausted]
      split <;> exact ⟨rfl, rfl⟩
    rcases h.putKnown hc (hkeeps.1.trans (key_of_lookUp hc)) hkeeps.2 hafter with ⟨hmirror, hids⟩
    rw [hc, hrow]
    refine ⟨_, _, rfl, ?_, ?_, hids⟩
    · simp only [hcompleted]
      cases (c.completeIfExhausted now).2 <;> rfl
    · simp only [hcompleted]
      by_cases hlast : (c.completeIfExhausted now).2 = true
      · rw [if_pos hlast]
        exact hmirror
      · -- The row is not written, and the campaign is stored as it was.
        have hself : (c.completeIfExhausted now).1 = c := by
          by_cases hopen : c.status = .sending ∧ c.audienceSize ≤ c.outcomeCount
          · exact absurd (by rw [Campaign.completeIfExhausted_of_open now hopen.1 hopen.2]) hlast
          · rw [Campaign.completeIfExhausted_of_not now hopen]
        rw [if_neg hlast, hself, Memory.putCampaign_of_lookUp hc]
        exact h

end Mirror

/-! ## Records -/

/-- A record as services store it: with texts that have bytes and a creation time in
    universal time. -/
structure DeliveryRecord.Storable (r : DeliveryRecord) : Prop where
  wholeEmail : r.customerEmail.Whole
  wholeMessage : r.message.Whole
  createdAt : r.createdAt.ahead = some 0

theorem DeliveryRecord.id_lasting (r : DeliveryRecord) : r.lasting.id = r.id := rfl

namespace Mirror

variable {m : Memory} {d : Database}

theorem recordKeys (h : Mirror m d) :
    d.tables.records.map DeliveryRecord.id = m.tables.records.map DeliveryRecord.id :=
  keys_of_views DeliveryRecord.id_lasting DeliveryRecord.id_lasting h.kept.records

/-- Both stores know a record of which the same lasts, or none of them does. -/
theorem record (h : Mirror m d) (id : Uuid) :
    (lookUp DeliveryRecord.id id m.tables.records = none ∧
        lookUp DeliveryRecord.id id d.tables.records = none) ∨
      ∃ r row, lookUp DeliveryRecord.id id m.tables.records = some r ∧
        lookUp DeliveryRecord.id id d.tables.records = some row ∧ row.lasting = r.lasting :=
  lookUp_of_views DeliveryRecord.id_lasting DeliveryRecord.id_lasting h.kept.records id

theorem insertNew_of_new {α : Type} {key : α → Uuid} : ∀ {batch rows : List α},
    ((rows ++ batch).map key).Nodup → Database.insertNew key rows batch = .ok (rows ++ batch)
  | [], rows, _ => by rw [Database.insertNew, List.append_nil]
  | a :: rest, rows, hkeys => by
      have happ : rows ++ a :: rest = rows ++ [a] ++ rest := by
        rw [List.append_assoc, List.singleton_append]
      have habsent : lookUp key (key a) rows = none := by
        rw [List.map_append] at hkeys
        exact lookUp_eq_none_iff.2 fun hmem =>
          List.disjoint_of_nodup_append hkeys hmem List.mem_cons_self
      rw [happ] at hkeys
      rw [Database.insertNew, habsent, Option.isSome_none, if_neg Bool.false_ne_true,
        insertNew_of_new hkeys, ← happ]

/-- Both stores take a batch of records with new identifiers for a campaign that they
    know. -/
theorem saveRecords (h : Mirror m d) {rs : List DeliveryRecord} (hrs : ∀ r ∈ rs, r.Storable)
    (hknown : ∀ r ∈ rs, r.campaignId ∈ m.tables.campaigns.map Campaign.id)
    (hnew : ((m.tables.records ++ rs).map DeliveryRecord.id).Nodup) :
    let m' := m.withTables fun t => { t with records := t.records ++ rs }
    m.saveRecords rs = .ok m' ∧ ∃ d', d.saveRecords rs = .ok d' ∧ Mirror m' d' ∧
      m'.tables.ids ⊆ rs.map DeliveryRecord.id ++ m.tables.ids := by
  intro m'
  have hchecked : rs.mapM Database.ensureRecord = .ok (rs.map fun _ => ()) := by
    refine mapM_eq_map fun r hr => ?_
    simp only [Database.ensureRecord, ensureEncodable_of_whole (hrs r hr).wholeEmail,
      ensureEncodable_of_whole (hrs r hr).wholeMessage, bind, Except.bind]
  have hinsert : Database.insertNew DeliveryRecord.id d.tables.records
      (rs.map Database.recordRow) = .ok (d.tables.records ++ rs.map Database.recordRow) := by
    refine insertNew_of_new ?_
    rw [List.map_append, List.map_map, h.recordKeys]
    rwa [List.map_append] at hnew
  refine ⟨?_, d.withTables fun t => { t with records := t.records ++ rs.map Database.recordRow },
    ?_, h.withTables ?_ ?_, ?_⟩
  · rw [Memory.saveRecords_eq, h.accepting, Memory.withTables, foldl_upsert_of_new hnew]
    rfl
  · simp only [Database.saveRecords, h.batches, hchecked, hinsert, bind, Except.bind, pure,
      Except.pure]
    rfl
  · refine { h.kept with records := ?_ }
    rw [List.map_append, List.map_append, h.kept.records, List.map_map]
    rfl
  · refine { h.orderly with recordIds := hnew, created := fun r hr => ?_, known := fun r hr => ?_ }
    · rcases List.mem_append.1 hr with hr | hr
      · exact h.orderly.created r hr
      · exact (hrs r hr).createdAt
    · rcases List.mem_append.1 hr with hr | hr
      · exact h.orderly.known r hr
      · exact hknown r hr
  · intro id hid
    simp only [m', Memory.withTables, Tables.mem_ids, List.map_append, List.mem_append] at hid ⊢
    tauto

/-- Records of which the same lasts are stored on both sides. -/
theorem putRecord (h : Mirror m d) {r row : DeliveryRecord} (hlasting : row.lasting = r.lasting)
    (hcreated : r.createdAt.ahead = some 0)
    (hknown : r.campaignId ∈ m.tables.campaigns.map Campaign.id) :
    Mirror (m.putRecord r) (d.putRecord row) ∧
      (m.putRecord r).tables.ids ⊆ r.id :: m.tables.ids := by
  refine ⟨h.withTables ?_ ?_, fun id hid => ?_⟩
  · refine { h.kept with records := ?_ }
    simp only [map_upsert DeliveryRecord.id_lasting, hlasting, h.kept.records]
  · refine { h.orderly with recordIds := ?_, created := fun x hx => ?_, known := fun x hx => ?_ }
    · exact nodup_keys_upsert r h.orderly.recordIds
    · rcases mem_upsert hx with rfl | hx
      · exact hcreated
      · exact h.orderly.created x hx
    · rcases mem_upsert hx with rfl | hx
      · exact hknown
      · exact h.orderly.known x hx
  · simp only [Memory.putRecord, Memory.withTables, Tables.mem_ids, mem_keys_upsert,
      List.mem_cons] at hid ⊢
    tauto

/-- Both stores settle a record that they know, or none of them does. -/
theorem settleRecord (h : Mirror m d) {id : Uuid} {outcome : DeliveryStatus}
    (ho : outcome.isOutcome) (now : Timestamp) :
    (m.settleRecord id outcome now = .error (.entityNotFound .deliveryRecord id) ∧
        d.settleRecord id outcome now = .error (.entityNotFound .deliveryRecord id)) ∨
      ∃ m' d' settled, m.settleRecord id outcome now = .ok (m', settled) ∧
        d.settleRecord id outcome now = .ok (d', settled) ∧ Mirror m' d' ∧
          m'.tables.ids ⊆ m.tables.ids ∧ m'.tables.campaigns = m.tables.campaigns := by
  have hkeys : (d.tables.records.map DeliveryRecord.id).Nodup := by
    rw [h.recordKeys]
    exact h.orderly.recordIds
  rw [m.settleRecord_eq id outcome now ho, d.settleRecord_eq id now ho hkeys]
  rcases h.record id with ⟨hr, hrow⟩ | ⟨r, row, hr, hrow, hlasting⟩
  · rw [hr, hrow]
    exact Or.inl ⟨rfl, rfl⟩
  · have hstatus : row.status = r.status := (congrArg DeliveryRecord.status hlasting :)
    rw [hr, hrow]
    simp only [hstatus]
    by_cases hp : r.status = .pending
    · have hmem := mem_of_lookUp hr
      let settled : DeliveryRecord := { row with status := outcome, updatedAt := now.naive }
      have hsettled : settled.lasting =
          ({ r with status := outcome, updatedAt := now } : DeliveryRecord).lasting :=
        (congrArg (fun x : DeliveryRecord => { x with status := outcome }) hlasting :)
      rcases h.putRecord hsettled (h.orderly.created r hmem) (h.orderly.known r hmem) with
        ⟨hmirror, hids⟩
      rw [if_pos hp, if_pos hp]
      refine Or.inr ⟨_, _, true, rfl, rfl, hmirror, fun x hx => ?_, rfl⟩
      rcases List.mem_cons.1 (hids hx) with rfl | hx
      · exact Tables.mem_ids.2 (Or.inr (Or.inr (Or.inr (List.mem_map_of_mem hmem :))))
      · exact hx
    · rw [if_neg hp, if_neg hp]
      exact Or.inr ⟨m, d, false, rfl, rfl, h, List.Subset.refl _, rfl⟩

/-! ## Counts -/

theorem countCustomers (h : Mirror m d) :
    d.tables.customers.length = m.tables.customers.length := by
  have hlength := congrArg List.length h.kept.customers
  rwa [List.length_map, List.length_map] at hlength

theorem countOrders (h : Mirror m d) : d.tables.orders.length = m.tables.orders.length := by
  rw [h.kept.orders, List.length_map]

theorem countCampaigns (h : Mirror m d) :
    d.tables.campaigns.length = m.tables.campaigns.length := by
  have hlength := congrArg List.length h.kept.campaigns
  rwa [List.length_map, List.length_map] at hlength

/-- Both stores count as many records since a time. -/
theorem countSince (h : Mirror m d) {since : Timestamp} (hsince : since.ahead = some 0) :
    m.countSince since = .ok (d.countSince since) := by
  have haware : (m.tables.records.all fun r => r.createdAt.isAware = since.isAware) = true := by
    refine List.all_eq_true.2 fun r hr => decide_eq_true ?_
    rw [Timestamp.isAware, Timestamp.isAware, h.orderly.created r hr, hsince]
  have hwall : ∀ r : DeliveryRecord, r.lasting.createdAt.wall = r.createdAt.wall := fun _ => rfl
  have hrows := congrArg (List.countP fun r : DeliveryRecord => since.wall ≤ r.createdAt.wall)
    h.kept.records
  simp only [List.countP_map, Function.comp_def, hwall] at hrows
  have hinstants : (m.tables.records.countP fun r => since.instant ≤ r.createdAt.instant) =
      m.tables.records.countP fun r => since.wall ≤ r.createdAt.wall := by
    refine List.countP_congr fun r hr => ?_
    rw [Timestamp.wall_of_utc hsince, Timestamp.wall_of_utc (h.orderly.created r hr)]
  rw [Memory.countSince, if_pos haware, hinstants, ← hrows, Database.countSince]

end Mirror

end Outreach
