import Outreach.Service.Campaigns
import Outreach.Service.Customers
import Outreach.Service.Receipts

/-!
# Answers

Entities and results as documents for callers of the interface. Names of
members are written in camel case, timestamps in universal time end in `Z`,
and an amount that is not finite is null.

## Main definitions

* `customerAnswer`, `orderAnswer`, `campaignAnswer`, `recordAnswer`: Entities.
* `receiptAnswer`, `totalsAnswer`, `countAnswer`: Results.
-/

namespace Outreach

namespace Api

/-- An amount. -/
def amountJson (x : Double) : Json :=
  if x.isFinite then .double x else .null

/-- A timestamp. -/
def timeJson (t : Timestamp) : Json :=
  .string t.isoZulu

/-- A customer. -/
def customerAnswer (c : Customer) : Json :=
  .record [("id", .string c.id.text), ("name", .text c.name), ("email", .text c.email),
    ("phone", c.phone), ("totalSpends", amountJson c.totalSpends),
    ("visits", .int c.visits), ("lastVisit", timeJson c.lastVisit),
    ("createdAt", timeJson c.createdAt)]

/-- An order. -/
def orderAnswer (o : Order) : Json :=
  .record [("id", .string o.id.text), ("customerEmail", .text o.customerEmail),
    ("amount", amountJson o.amount), ("date", timeJson o.date),
    ("items", .list o.items), ("createdAt", timeJson o.createdAt)]

/-- A campaign. -/
def campaignAnswer (c : Campaign) : Except Fault Json := do
  let rate ← c.deliveryRate
  return .record [("id", .string c.id.text), ("name", .text c.name),
    ("message", .text c.message), ("rules", .list (Rule.listToJson c.rules)),
    ("status", .string c.status.text), ("audienceSize", .int c.audienceSize),
    ("sentCount", .int c.sentCount), ("failedCount", .int c.failedCount),
    ("deliveryRate", amountJson rate), ("createdAt", timeJson c.createdAt),
    ("updatedAt", timeJson c.updatedAt)]

/-- A delivery record. -/
def recordAnswer (r : DeliveryRecord) : Json :=
  .record [("id", .string r.id.text), ("campaignId", .string r.campaignId.text),
    ("customerId", .string r.customerId.text), ("customerEmail", .text r.customerEmail),
    ("message", .text r.message), ("status", .string r.status.text),
    ("createdAt", timeJson r.createdAt), ("updatedAt", timeJson r.updatedAt)]

/-- What a receipt changed. -/
def receiptAnswer (r : ReceiptResult) : Json :=
  .record [("success", .bool true), ("duplicate", .bool r.duplicate),
    ("completed", .bool r.completed)]

/-- Totals. -/
def totalsAnswer (t : Totals) : Json :=
  .record [("totalCustomers", .int t.customers), ("totalOrders", .int t.orders),
    ("totalCampaigns", .int t.campaigns), ("recentActivity", .int t.recentActivity)]

/-- The size of an audience. -/
def countAnswer (n : Nat) : Json :=
  .record [("count", .int n)]

end Api

end Outreach
