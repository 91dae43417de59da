import Outreach.Campaign.Status
import Outreach.Customer.Basic
import Outreach.Sql.Expr

/-!
# Conditional Updates

Every change of a stored campaign, record or customer that depends on what is
stored is one `UPDATE` statement. Its condition and its new values are read
against the row as it was. Whether a row was changed tells whether the change
took place.

## Main definitions

* `SqlUpdate`: A statement.
* `SqlUpdate.text`, `SqlUpdate.parameters`: Its text and parameters.
* `SqlRow`: Reading and writing the columns of a row.
* `SqlUpdate.changed?`: A row after the statement, if it is changed.
* `markSendingUpdate`, `releaseUpdate`, `recordOutcomeUpdate`,
  `completeUpdate`, `settleUpdate`, `applyOrderUpdate`: The statements.
-/

namespace Outreach

/-- An `UPDATE` statement. -/
structure SqlUpdate where
  table : String
  assignments : List (String × SqlExpr)
  conditions : List SqlCondition
  /-- The column that is reported for each changed row. -/
  returning : Option String

namespace SqlUpdate

/-- The text of an assignment; a sum is put in parentheses. -/
def assignmentText (a : String × SqlExpr) : String :=
  match a.2 with
  | .sum .. => a.1 ++ "=(" ++ a.2.text ++ ")"
  | _ => a.1 ++ "=" ++ a.2.text

/-- The text of a statement. -/
def text (u : SqlUpdate) : String :=
  "UPDATE " ++ u.table ++ " SET " ++ ", ".intercalate (u.assignments.map assignmentText) ++
    " WHERE " ++ conditionsText u.conditions ++
    (u.returning.map fun c => " RETURNING " ++ u.table ++ "." ++ c).getD ""

/-- The parameters of a statement. -/
def parameters (u : SqlUpdate) : List (String × SqlValue) :=
  u.assignments.flatMap (fun a => a.2.parameters) ++ u.conditions.flatMap SqlCondition.parameters

end SqlUpdate

/-- Reading and writing the columns of a row. -/
class SqlRow (ρ : Type) where
  column : ρ → String → SqlValue
  assign : ρ → String → SqlValue → ρ

namespace SqlUpdate

variable {ρ : Type} [SqlRow ρ]

/-- Whether the condition of a statement holds of a row. -/
def selects (u : SqlUpdate) (now : Timestamp) (row : ρ) : Bool :=
  u.conditions.all fun c => c.holds (SqlRow.column row) now

/-- The new values of a row. -/
def newValues (u : SqlUpdate) (now : Timestamp) (row : ρ) : List (String × SqlValue) :=
  u.assignments.map fun a => (a.1, a.2.value (SqlRow.column row) now)

/-- A row after a statement, if the statement changes it. -/
def changed? (u : SqlUpdate) (now : Timestamp) (row : ρ) : Option ρ :=
  if u.selects now row then
    -- All values are computed from the old row before the first one is assigned.
    some ((u.newValues now row).foldl (fun r v => SqlRow.assign r v.1 v.2) row)
  else none

/-- Whether a statement would leave a column of a row without a value. -/
def leavesNull (u : SqlUpdate) (now : Timestamp) (row : ρ) : Bool :=
  u.selects now row && (u.newValues now row).any fun v => v.2 = .null

/-- The rows of a table after a statement, and the changed ones. -/
def run (u : SqlUpdate) (now : Timestamp) (rows : List ρ) : List ρ × List ρ :=
  (rows.map fun r => (u.changed? now r).getD r, rows.filterMap (u.changed? now))

end SqlUpdate

/-- A column of the campaigns. -/
def campaignColumn (name : String) : SqlExpr := .column "campaigns" name

/-- The condition that a campaign has an identifier. -/
def campaignHasId (id : Uuid) : SqlCondition :=
  .compare (campaignColumn "id") .eq (.parameter "id_1" (.id id))

/-- The condition that a campaign is in a state. -/
def campaignHasStatus (status : CampaignStatus) : SqlCondition :=
  .compare (campaignColumn "status") .eq (.parameter "status_1" (.text status.text))

/-- The assignment of a state. -/
def setStatus (text : String) : String × SqlExpr :=
  ("status", .parameter "status" (.text text))

/-- The assignment of the time of the change. -/
def setUpdated : String × SqlExpr := ("updated_at", .clock)

/-- The outcomes that are known for a campaign. -/
def settledColumns : SqlExpr :=
  .sum (campaignColumn "sent_count") (campaignColumn "failed_count")

/-- Start a pending campaign. -/
def markSendingUpdate (id : Uuid) : SqlUpdate where
  table := "campaigns"
  assignments := [setStatus CampaignStatus.sending.text, setUpdated]
  conditions := [campaignHasId id, campaignHasStatus .pending]
  returning := some "id"

/-- Put a campaign back that is being sent and has no outcomes. -/
def releaseUpdate (id : Uuid) : SqlUpdate where
  table := "campaigns"
  assignments := [setStatus CampaignStatus.pending.text, setUpdated]
  conditions := [campaignHasId id, campaignHasStatus .sending,
    .compare settledColumns .eq (.parameter "param_1" (.int 0))]
  returning := none

/-- Count an outcome in a column, and complete the campaign if it is the
    last. -/
def countUpdate (id : Uuid) (counter : String) : SqlUpdate where
  table := "campaigns"
  assignments := [
    -- The counters are still the old ones here, hence the one that is added.
    ("status", .choose (.sum settledColumns (.parameter "param_1" (.int 1))) .ge
      (campaignColumn "audience_size")
      (.parameter "param_2" (.text CampaignStatus.completed.text)) (campaignColumn "status")),
    (counter, .sum (campaignColumn counter) (.parameter (counter ++ "_1") (.int 1))),
    setUpdated]
  conditions := [campaignHasId id, campaignHasStatus .sending,
    .compare settledColumns .lt (campaignColumn "audience_size")]
  returning := some "status"

/-- Count an outcome. -/
def recordOutcomeUpdate (id : Uuid) (outcome : DeliveryStatus) : Except Fault SqlUpdate :=
  match outcome with
  | .sent => .ok (countUpdate id "sent_count")
  | .failed => .ok (countUpdate id "failed_count")
  | .pending => .error (.notAnOutcome outcome.qualified)

/-- Complete a campaign whose audience is exhausted. -/
def completeUpdate (id : Uuid) : SqlUpdate where
  table := "campaigns"
  assignments := [setStatus CampaignStatus.completed.text, setUpdated]
  conditions := [campaignHasId id, campaignHasStatus .sending,
    .compare settledColumns .ge (campaignColumn "audience_size")]
  returning := some "id"

/-- Settle a pending record. -/
def settleUpdate (id : Uuid) (outcome : DeliveryStatus) : SqlUpdate where
  table := "delivery_records"
  assignments := [setStatus outcome.text, setUpdated]
  conditions := [
    .compare (.column "delivery_records" "id") .eq (.parameter "id_1" (.id id)),
    .compare (.column "delivery_records" "status") .eq
      (.parameter "status_1" (.text DeliveryStatus.pending.text))]
  returning := some "id"

/-- Apply an order to the customer with an email. -/
def applyOrderUpdate (email : Text) (amount : Double) (at' : Timestamp) : SqlUpdate where
  table := "customers"
  assignments := [
    ("total_spends", .sum (.column "customers" "total_spends")
      (.parameter "total_spends_1" (.double amount))),
    ("visits", .sum (.column "customers" "visits") (.parameter "visits_1" (.int 1))),
    ("last_visit", .parameter "last_visit" (.time at')),
    setUpdated]
  conditions := [
    .compare (.column "customers" "email") .eq
      (.parameter "email_1" (.text (normalEmail email)))]
  returning := some "id"

end Outreach
