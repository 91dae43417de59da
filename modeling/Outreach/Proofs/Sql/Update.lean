import Outreach.Proofs.Campaign.Counters
import Outreach.Proofs.Sql.Value
import Outreach.Proofs.Store.Tables
import Outreach.Store.Database

/-!
# What a Conditional Update Does to a Row

A statement reads a row, decides and writes, all against the row as it was. The
entity that the row keeps has an operation of its own for the same purpose, which
checks first and then changes itself. A row with the identifier that a statement
asks for is changed just if the operation changes the entity, and then into what
the operation makes of it, with a naive time of change.

A table has each identifier once. A statement that asks for an identifier
therefore changes at most one row, and the table after it is the table with that
row stored.

## Theorems

* `SqlUpdate.changed?_markSending`, `SqlUpdate.changed?_release`,
  `SqlUpdate.changed?_recordOutcome`, `SqlUpdate.changed?_complete`,
  `SqlUpdate.changed?_settle`, `SqlUpdate.changed?_applyOrder`: The statements on one
  row.
* `SqlUpdate.run_of_lookUp`: A statement that asks for an identifier.
* `SqlUpdate.run_of_absent`: A statement that asks for an unknown one.
-/

namespace Outreach

/-! ## Reading and writing a row -/

section

variable (c : Campaign) (r : DeliveryRecord) (now : Timestamp)

theorem CampaignStatus.text_inj {s t : CampaignStatus} : s.text = t.text ↔ s = t := by
  cases s <;> cases t <;> decide

theorem DeliveryStatus.text_inj {s t : DeliveryStatus} : s.text = t.text ↔ s = t := by
  cases s <;> cases t <;> decide

@[simp] theorem holds_campaignHasId (id : Uuid) :
    (campaignHasId id).holds (SqlRow.column c) now = decide (c.id = id) :=
  SqlValue.satisfies_id c.id id

@[simp] theorem holds_campaignHasStatus (s : CampaignStatus) :
    (campaignHasStatus s).holds (SqlRow.column c) now = decide (c.status = s) := by
  change SqlValue.satisfies .eq (.text c.status.text) (.text s.text) = _
  rw [SqlValue.satisfies_text]
  exact decide_eq_decide.2 (Text.ofString_inj.trans CampaignStatus.text_inj)

theorem CampaignStatus.ofText?_string? (s : CampaignStatus) :
    (s.text : Text).string?.bind ofText? = some s := by
  rw [Text.string?, Text.ofString, Text.chars?_ofChars, Option.map_some, String.ofList_toList,
    Option.bind_some, ofText?_text]

theorem DeliveryStatus.ofText?_string? (s : DeliveryStatus) :
    (s.text : Text).string?.bind ofText? = some s := by
  rw [Text.string?, Text.ofString, Text.chars?_ofChars, Option.map_some, String.ofList_toList,
    Option.bind_some, ofText?_text]

theorem assign_campaignStatus (s : CampaignStatus) :
    SqlRow.assign c "status" (.text s.text) = { c with status := s } := by
  change { c with status := ((s.text : Text).string?.bind CampaignStatus.ofText?).getD c.status } = _
  rw [CampaignStatus.ofText?_string?, Option.getD_some]

theorem assign_recordStatus (s : DeliveryStatus) :
    SqlRow.assign r "status" (.text s.text) = { r with status := s } := by
  change { r with status := ((s.text : Text).string?.bind DeliveryStatus.ofText?).getD r.status } = _
  rw [DeliveryStatus.ofText?_string?, Option.getD_some]

end

namespace SqlUpdate

/-! ## The statements on one row -/

section

variable {u : SqlUpdate} {s : CampaignStatus} {p : Prop} [Decidable p] {c : Campaign}
  {now : Timestamp}

/-- A statement that sets the state, by its condition. -/
theorem changed?_of_setStatus (hset : u.assignments = [setStatus s.text, setUpdated])
    (hselects : u.selects now c = decide p) :
    u.changed? now c =
      if p then some { c with status := s, updatedAt := now.naive } else none := by
  have hvalues : u.newValues now c =
      [("status", .text s.text), ("updated_at", .time now)] := by
    rw [newValues, hset]
    rfl
  simp only [changed?, hselects, hvalues, decide_eq_true_eq, List.foldl_cons, List.foldl_nil,
    assign_campaignStatus]
  rfl

end

variable (id : Uuid) (now : Timestamp) (c : Campaign)

/-- A campaign is claimed just if it can be started. -/
theorem changed?_markSending :
    (markSendingUpdate id).changed? now c =
      if c.id = id then (c.startSending now.naive).toOption else none := by
  have hselects : (markSendingUpdate id).selects now c =
      decide (c.id = id ∧ c.status = .pending) := by
    simp only [selects, markSendingUpdate, List.all_cons, List.all_nil, holds_campaignHasId,
      holds_campaignHasStatus, Bool.and_true, Bool.decide_and]
  rw [changed?_of_setStatus (s := .sending) rfl hselects, Campaign.startSending]
  by_cases hid : c.id = id <;> by_cases hs : c.status = .pending <;>
    simp only [hid, hs, and_self, and_true, and_false, ne_eq, not_true_eq_false,
      not_false_eq_true, if_true, if_false, Except.toOption]

/-- A campaign is put back just if it can be released. -/
theorem changed?_release :
    (releaseUpdate id).changed? now c =
      if c.id = id then (c.release now.naive).toOption else none := by
  have hselects : (releaseUpdate id).selects now c =
      decide (c.id = id ∧ c.status = .sending ∧ c.outcomeCount = 0) := by
    have hzero : (SqlCondition.compare settledColumns .eq (.parameter "param_1" (.int 0))).holds
        (SqlRow.column c) now = decide (c.outcomeCount = 0) :=
      SqlValue.satisfies_int_eq c.outcomeCount 0
    simp only [selects, releaseUpdate, List.all_cons, List.all_nil, holds_campaignHasId,
      holds_campaignHasStatus, hzero, Bool.and_true, Bool.decide_and]
  rw [changed?_of_setStatus (s := .pending) rfl hselects, Campaign.release]
  by_cases hid : c.id = id <;> by_cases hs : c.status = .sending <;>
    by_cases hz : c.outcomeCount = 0 <;>
    simp only [hid, hs, hz, and_self, and_true, and_false, ne_eq, not_true_eq_false,
      not_false_eq_true, if_true, if_false, Except.toOption]

/-- A campaign is completed just if it completes itself. -/
theorem changed?_complete :
    (completeUpdate id).changed? now c =
      if c.id = id ∧ (c.completeIfExhausted now.naive).2 = true then
        some (c.completeIfExhausted now.naive).1
      else none := by
  have hselects : (completeUpdate id).selects now c =
      decide (c.id = id ∧ c.status = .sending ∧ c.audienceSize ≤ c.outcomeCount) := by
    have hfull : (SqlCondition.compare settledColumns .ge (campaignColumn "audience_size")).holds
        (SqlRow.column c) now = decide (c.audienceSize ≤ c.outcomeCount) :=
      SqlValue.satisfies_int_ge c.outcomeCount c.audienceSize
    simp only [selects, completeUpdate, List.all_cons, List.all_nil, holds_campaignHasId,
      holds_campaignHasStatus, hfull, Bool.and_true, Bool.decide_and]
  rw [changed?_of_setStatus (s := .completed) rfl hselects]
  by_cases hopen : c.status = .sending ∧ c.audienceSize ≤ c.outcomeCount
  · rw [Campaign.completeIfExhausted_of_open now.naive hopen.1 hopen.2]
    simp only [hopen, and_true]
  · rw [Campaign.completeIfExhausted_of_not now.naive hopen]
    simp only [hopen, and_false, Bool.false_eq_true, if_false]

/-- The state that a campaign gets together with one more outcome. The
    statement tells it from the old counters. -/
theorem value_nextStatus (yes no : String) :
    (SqlExpr.choose (.sum settledColumns (.parameter yes (.int 1))) .ge
      (campaignColumn "audience_size") (.parameter no (.text CampaignStatus.completed.text))
      (campaignColumn "status")).value (SqlRow.column c) now =
        .text (if c.audienceSize ≤ c.outcomeCount + 1 then CampaignStatus.completed
          else c.status).text := by
  have hlast : SqlValue.satisfies .ge (.int (c.outcomeCount + 1)) (.int c.audienceSize) =
      decide (c.audienceSize ≤ c.outcomeCount + 1) := SqlValue.satisfies_int_ge _ _
  change (if SqlValue.satisfies .ge (.int (c.outcomeCount + 1)) (.int c.audienceSize) then _
    else _) = _
  rw [hlast]
  by_cases h : c.audienceSize ≤ c.outcomeCount + 1
  · rw [if_pos (decide_eq_true h), if_pos h]
    rfl
  · rw [if_neg (by rwa [decide_eq_true_eq]), if_neg h]
    rfl

/-- A row with one more outcome in its counters is the campaign that counted it
    and completed itself if it was the last one. -/
theorem foldl_assign_count {outcome : DeliveryStatus} {u : SqlUpdate}
    (hu : recordOutcomeUpdate id outcome = .ok u) (hs : c.status = .sending) :
    (u.newValues now c).foldl (fun r v => SqlRow.assign r v.1 v.2) c =
      ((c.count outcome now.naive).completeIfExhausted now.naive).1 := by
  have hcount : ∀ v, ((c.count outcome now.naive).completeIfExhausted v).1 =
      { c.count outcome now.naive with
        status := if c.audienceSize ≤ c.outcomeCount + 1 then .completed else c.status
        updatedAt := if c.audienceSize ≤ c.outcomeCount + 1 then v else now.naive } := by
    intro v
    have hsize : (c.count outcome now.naive).audienceSize = c.audienceSize := by
      cases outcome <;> rfl
    have hstatus : (c.count outcome now.naive).status = c.status := by
      cases outcome <;> rfl
    by_cases h : c.audienceSize ≤ c.outcomeCount + 1
    · rw [Campaign.completeIfExhausted_of_open v (hstatus.trans hs)
        (by rwa [hsize, Campaign.outcomeCount_count])]
      simp only [h, if_true]
    · rw [Campaign.completeIfExhausted_of_not v
        (by rw [hsize, Campaign.outcomeCount_count]; exact fun hopen => h hopen.2)]
      simp only [h, if_false]
      cases outcome <;> rfl
  have hvalues : ∀ counter : String, (countUpdate id counter).newValues now c =
      [("status", .text (if c.audienceSize ≤ c.outcomeCount + 1 then CampaignStatus.completed
        else c.status).text), (counter, (SqlRow.column c counter).add (.int 1)),
        ("updated_at", .time now)] := by
    intro counter
    rw [← value_nextStatus now c "param_1" "param_2"]
    rfl
  rw [hcount now.naive]
  cases outcome with
  | pending => cases hu
  | sent =>
      cases hu
      rw [hvalues, List.foldl_cons, assign_campaignStatus, ite_self]
      rfl
  | failed =>
      cases hu
      rw [hvalues, List.foldl_cons, assign_campaignStatus, ite_self]
      rfl

/-- An outcome is counted just if the campaign counts it. -/
theorem changed?_recordOutcome {outcome : DeliveryStatus} {u : SqlUpdate}
    (hu : recordOutcomeUpdate id outcome = .ok u) :
    u.changed? now c =
      if c.id = id ∧ c.status = .sending ∧ c.outcomeCount < c.audienceSize then
        some ((c.count outcome now.naive).completeIfExhausted now.naive).1
      else none := by
  have hselects : u.selects now c =
      decide (c.id = id ∧ c.status = .sending ∧ c.outcomeCount < c.audienceSize) := by
    have hroom : (SqlCondition.compare settledColumns .lt (campaignColumn "audience_size")).holds
        (SqlRow.column c) now = decide (c.outcomeCount < c.audienceSize) :=
      SqlValue.satisfies_int_lt c.outcomeCount c.audienceSize
    -- Both counters have the same condition.
    have hcounter : ∀ counter : String, (countUpdate id counter).selects now c =
        decide (c.id = id ∧ c.status = .sending ∧ c.outcomeCount < c.audienceSize) := by
      intro counter
      simp only [selects, countUpdate, List.all_cons, List.all_nil, holds_campaignHasId,
        holds_campaignHasStatus, hroom, Bool.and_true, Bool.decide_and]
    cases outcome with
    | pending => cases hu
    | sent =>
        cases hu
        exact hcounter _
    | failed =>
        cases hu
        exact hcounter _
  rw [changed?, hselects]
  by_cases hopen : c.id = id ∧ c.status = .sending ∧ c.outcomeCount < c.audienceSize
  · rw [if_pos (decide_eq_true hopen), if_pos hopen, foldl_assign_count id now c hu hopen.2.1]
  · rw [if_neg (by rwa [decide_eq_true_eq]), if_neg hopen]

/-- A record is settled just if it is pending. -/
theorem changed?_settle (r : DeliveryRecord) (outcome : DeliveryStatus) :
    (settleUpdate id outcome).changed? now r =
      if r.id = id ∧ r.status = .pending then
        some { r with status := outcome, updatedAt := now.naive }
      else none := by
  have hselects : (settleUpdate id outcome).selects now r =
      decide (r.id = id ∧ r.status = .pending) := by
    have hid : SqlCondition.holds (SqlRow.column r) now
        (.compare (.column "delivery_records" "id") .eq (.parameter "id_1" (.id id))) =
          decide (r.id = id) := SqlValue.satisfies_id r.id id
    have hstatus : SqlCondition.holds (SqlRow.column r) now
        (.compare (.column "delivery_records" "status") .eq
          (.parameter "status_1" (.text DeliveryStatus.pending.text))) =
            decide (r.status = .pending) := by
      change SqlValue.satisfies .eq (.text r.status.text) (.text DeliveryStatus.pending.text) = _
      rw [SqlValue.satisfies_text]
      exact decide_eq_decide.2 (Text.ofString_inj.trans DeliveryStatus.text_inj)
    simp only [selects, settleUpdate, List.all_cons, List.all_nil, hid, hstatus, Bool.and_true,
      Bool.decide_and]
  have hvalues : ((settleUpdate id outcome).newValues now r).foldl
      (fun r v => SqlRow.assign r v.1 v.2) r =
        { r with status := outcome, updatedAt := now.naive } := by
    change SqlRow.assign (SqlRow.assign r "status" (.text outcome.text))
      "updated_at" (.time now) = _
    rw [assign_recordStatus]
    rfl
  simp only [changed?, hselects, hvalues, decide_eq_true_eq]

/-- An order is applied just if the row has its email, its sum being a number. -/
theorem changed?_applyOrder (r : CustomerRow) (email : Text) {amount : Double} (at' : Timestamp)
    (hspend : r.customer.totalSpends.isNaN = false)
    (hsum : (r.customer.totalSpends.add amount).isNaN = false) :
    (applyOrderUpdate email amount at').leavesNull now r = false ∧
      (applyOrderUpdate email amount at').changed? now r =
        if r.customer.email = normalEmail email then
          some ⟨{ r.customer with
            totalSpends := r.customer.totalSpends.add amount
            visits := r.customer.visits + 1
            lastVisit := at'.naive }, now.naive⟩
        else none := by
  have hselects : (applyOrderUpdate email amount at').selects now r =
      decide (r.customer.email = normalEmail email) := by
    have hemail : SqlCondition.holds (SqlRow.column r) now
        (.compare (.column "customers" "email") .eq
          (.parameter "email_1" (.text (normalEmail email)))) =
            decide (r.customer.email = normalEmail email) :=
      SqlValue.satisfies_text r.customer.email (normalEmail email)
    simp only [selects, applyOrderUpdate, List.all_cons, List.all_nil, hemail, Bool.and_true]
  have hadd : (SqlValue.ofDouble r.customer.totalSpends).add (.double amount) =
      .double (r.customer.totalSpends.add amount) := by
    simp only [SqlValue.ofDouble, hspend, hsum, SqlValue.add, Bool.false_eq_true, if_false]
  have hvalues : (applyOrderUpdate email amount at').newValues now r =
      [("total_spends", .double (r.customer.totalSpends.add amount)),
        ("visits", .int (r.customer.visits + 1)), ("last_visit", .time at'),
        ("updated_at", .time now)] := by
    rw [← hadd]
    rfl
  refine ⟨?_, ?_⟩
  · rw [leavesNull, hvalues]
    simp only [List.any_cons, List.any_nil, reduceCtorEq, decide_false, Bool.or_false,
      Bool.and_false]
  · simp only [changed?, hselects, hvalues, decide_eq_true_eq]
    rfl

/-! ## The statements on a table -/

section

variable {ρ : Type} [SqlRow ρ] {u : SqlUpdate} {key : ρ → Uuid} {id : Uuid} {now : Timestamp}
  {rows : List ρ}

/-- A statement that no row answers leaves the table as it is. -/
theorem run_of_none (h : ∀ r ∈ rows, u.changed? now r = none) : u.run now rows = (rows, []) := by
  have hmap : rows.map (fun r => (u.changed? now r).getD r) = rows := by
    have hsame : ∀ r ∈ rows, (u.changed? now r).getD r = r := by
      intro r hr
      rw [h r hr]
      rfl
    rw [List.map_congr_left hsame, List.map_id']
  rw [run, hmap, List.filterMap_eq_nil_iff.2 h]

/-- A statement that asks for an unknown identifier changes nothing. -/
theorem run_of_absent (hid : ∀ r, key r ≠ id → u.changed? now r = none)
    (habsent : lookUp key id rows = none) : u.run now rows = (rows, []) := by
  refine run_of_none fun r hr => hid r fun hkey => ?_
  exact lookUp_eq_none_iff.1 habsent (List.mem_map.2 ⟨r, hr, hkey⟩)

/-- A statement that asks for an identifier stores what it makes of the row that
    has it. -/
theorem run_of_lookUp (hkeys : (rows.map key).Nodup)
    (hid : ∀ r, key r ≠ id → u.changed? now r = none) {row : ρ}
    (hrow : lookUp key id rows = some row) :
    (u.changed? now row = none → u.run now rows = (rows, [])) ∧
      ∀ new, u.changed? now row = some new → key new = id →
        u.run now rows = (upsert key new rows, [new]) := by
  induction rows with
  | nil => cases hrow
  | cons r rest ih =>
      rcases List.nodup_cons.1 hkeys with ⟨hfresh, hrest⟩
      rw [lookUp_cons] at hrow
      by_cases hr : key r = id
      · -- No other row has the identifier.
        rw [if_pos hr, Option.some.injEq] at hrow
        subst hrow
        have hothers : u.run now rest = (rest, []) :=
          run_of_absent hid (lookUp_eq_none_iff.2 (hr ▸ hfresh))
        injection hothers with hmap hfilter
        refine ⟨fun hnone => ?_, fun new hnew hkey => ?_⟩
        · rw [run, List.map_cons, hmap, List.filterMap_cons_none hnone, hfilter, hnone]
          rfl
        · rw [run, List.map_cons, hmap, List.filterMap_cons_some hnew, hfilter, hnew, upsert,
            if_pos (hr.trans hkey.symm)]
          rfl
      · rw [if_neg hr] at hrow
        have hsame := hid r hr
        rcases ih hrest hrow with ⟨hnone, hsome⟩
        refine ⟨fun h => ?_, fun new hnew hkey => ?_⟩
        · have hothers := hnone h
          injection hothers with hmap hfilter
          rw [run, List.map_cons, hmap, List.filterMap_cons_none hsame, hfilter, hsame]
          rfl
        · have hothers := hsome new hnew hkey
          injection hothers with hmap hfilter
          rw [run, List.map_cons, hmap, List.filterMap_cons_none hsame, hfilter, hsame, upsert,
            if_neg (fun h => hr (h.trans hkey))]
          rfl

end

end SqlUpdate

end Outreach
