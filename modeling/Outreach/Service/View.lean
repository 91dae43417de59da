import Outreach.Service.Campaigns
import Outreach.Service.Customers
import Outreach.Service.Receipts
import Outreach.Store.Tables

/-!
# Views

What callers are shown of stored entities and of the results of calls, as JSON
objects. All timestamps are shown in universal time.

## Main definitions

* `Order.view`, `Campaign.view`, `DeliveryRecord.view`: Stored entities.
* `CounterUpdate.toJson`, `ReceiptResult.toJson`, `Totals.toJson`: Results.
* `Tables.summary`: The contents of a store in numbers.
* `Metrics.toJson`: The metrics.
-/

namespace Outreach

/-- A customer as callers see it. -/
def Customer.view (c : Customer) : Except Fault Json := do
  let shown := { c with lastVisit := ← inUtc c.lastVisit, createdAt := ← inUtc c.createdAt }
  return shown.toJson

/-- An order as callers see it. -/
def Order.view (o : Order) : Except Fault Json := do
  let shown := { o with date := ← inUtc o.date, createdAt := ← inUtc o.createdAt }
  return shown.toJson

/-- A campaign as callers see it. -/
def Campaign.view (c : Campaign) : Except Fault Json := do
  let shown := { c with createdAt := ← inUtc c.createdAt, updatedAt := ← inUtc c.updatedAt }
  shown.toJson

/-- A record as callers see it. -/
def DeliveryRecord.view (r : DeliveryRecord) : Except Fault Json := do
  let shown := { r with createdAt := ← inUtc r.createdAt, updatedAt := ← inUtc r.updatedAt }
  return shown.toJson

/-- A change of the counters as an object. -/
def CounterUpdate.toJson (u : CounterUpdate) : Json :=
  .record [("counted", .bool u.counted), ("completed", .bool u.completed)]

/-- The result of a receipt as an object. -/
def ReceiptResult.toJson (r : ReceiptResult) : Json :=
  .record [("record_id", .string r.recordId.text), ("campaign_id", .string r.campaignId.text),
    ("counted", .bool r.counted), ("completed", .bool r.completed),
    ("duplicate", .bool r.duplicate)]

/-- Totals as an object. -/
def Totals.toJson (t : Totals) : Json :=
  .record [("totalCustomers", .int t.customers), ("totalOrders", .int t.orders),
    ("totalCampaigns", .int t.campaigns), ("recentActivity", .int t.recentActivity)]

/-- How many records of a campaign are in a state. -/
def Tables.recordCount {κ : Type} (t : Tables κ) (campaign : Uuid)
    (status : DeliveryStatus) : Nat :=
  t.records.countP fun r => r.campaignId == campaign && r.status == status

/-- A campaign in numbers: its state, its size, its counters and its records by
    state. -/
def Tables.campaignSummary {κ : Type} (t : Tables κ) (c : Campaign) : Json :=
  .list [.string c.status.text, .int c.audienceSize, .int c.sentCount, .int c.failedCount,
    .int (t.recordCount c.id .pending), .int (t.recordCount c.id .sent),
    .int (t.recordCount c.id .failed)]

/-- The contents of a store in numbers. -/
def Tables.summary {κ : Type} (t : Tables κ) : Json :=
  .record [("customers", .int t.customers.length), ("orders", .int t.orders.length),
    ("campaigns", .record (t.campaigns.map fun c => (c.id.text, t.campaignSummary c)))]

/-- The metrics as an object. -/
def Metrics.toJson (m : Metrics) : Json :=
  .object (m.samples.map fun s => (s.1, Json.int s.2))

end Outreach
