import Outreach.Proofs.Store.Database
import Outreach.Proofs.Store.Rows

/-!
# One Store as the Mirror of the Other

The store in a database mirrors the store in memory: its rows keep what the entities
in memory say, in the same order. A row has other times of change, its timestamps
have no zone, and a spend of zero has no sign.

What the stores hold is orderly as services fill them. This is what makes their
operations come out alike.

## Main definitions

* `Campaign.lasting`, `DeliveryRecord.lasting`: What lasts of an entity in a row.
* `Tables.Kept`: Rows that keep what tables hold.
* `Tables.Orderly`: Tables as services fill them.
* `Tables.ids`: The identifiers in use.
* `Mirror`: A store that mirrors the other.

## Theorems

* `Mirror.empty`: Empty stores mirror each other.
-/

namespace Outreach

/-! ## Stores that mirror each other -/

/-- What lasts of a campaign in a row: not its time of change, and not the zone of its
    creation time. -/
def Campaign.lasting (c : Campaign) : Campaign :=
  { c with createdAt := c.createdAt.naive, updatedAt := c.createdAt.naive }

/-- What lasts of a record in a row. -/
def DeliveryRecord.lasting (r : DeliveryRecord) : DeliveryRecord :=
  { r with createdAt := r.createdAt.naive, updatedAt := r.createdAt.naive }

/-- The rows keep what the tables hold. -/
structure Tables.Kept (t : Tables Customer) (rows : Tables CustomerRow) : Prop where
  customers : rows.customers.map CustomerRow.customer = t.customers.map Customer.row
  campaigns : rows.campaigns.map Campaign.lasting = t.campaigns.map Campaign.lasting
  records : rows.records.map DeliveryRecord.lasting = t.records.map DeliveryRecord.lasting
  orders : rows.orders = t.orders.map Database.orderRow

/-- Tables as services fill them: everything in them can be stored in rows, each email,
    campaign and record is there once, and records belong to campaigns. -/
structure Tables.Orderly (t : Tables Customer) : Prop where
  customers : ∀ c ∈ t.customers, c.Storable
  emails : (t.customers.map Customer.email).Nodup
  orders : ∀ o ∈ t.orders, o.Storable
  messages : ∀ c ∈ t.campaigns, c.message.Whole
  campaignIds : (t.campaigns.map Campaign.id).Nodup
  recordIds : (t.records.map DeliveryRecord.id).Nodup
  created : ∀ r ∈ t.records, r.createdAt.ahead = some 0
  known : ∀ r ∈ t.records, r.campaignId ∈ t.campaigns.map Campaign.id

/-- The identifiers in use. -/
def Tables.ids (t : Tables Customer) : List Uuid :=
  t.customers.map Customer.id ++ t.orders.map Order.id ++ t.campaigns.map Campaign.id ++
    t.records.map DeliveryRecord.id

/-- A store in a database that mirrors the one in memory. Both can be reached. -/
structure Mirror (m : Memory) (d : Database) : Prop where
  available : m.available = true
  accepting : m.batchFault = none
  reachable : d.reachable = true
  batches : d.batchFault = none
  commits : d.commitFault = none
  kept : m.tables.Kept d.tables
  orderly : m.tables.Orderly

/-- Empty stores mirror each other. -/
theorem Mirror.empty : Mirror Memory.empty Database.empty where
  available := rfl
  accepting := rfl
  reachable := rfl
  batches := rfl
  commits := rfl
  kept := ⟨rfl, rfl, rfl, rfl⟩
  orderly := ⟨nofun, List.nodup_nil, nofun, nofun, List.nodup_nil, List.nodup_nil, nofun, nofun⟩

namespace Tables

variable {t : Tables Customer} {id : Uuid}

theorem mem_ids : id ∈ t.ids ↔ id ∈ t.customers.map Customer.id ∨ id ∈ t.orders.map Order.id ∨
    id ∈ t.campaigns.map Campaign.id ∨ id ∈ t.records.map DeliveryRecord.id := by
  simp only [ids, List.mem_append, or_assoc]

end Tables

namespace Mirror

variable {m : Memory} {d : Database}

/-- Tables that are changed on both sides. -/
theorem withTables (h : Mirror m d) {f : Tables Customer → Tables Customer}
    {g : Tables CustomerRow → Tables CustomerRow} (hkept : (f m.tables).Kept (g d.tables))
    (horderly : (f m.tables).Orderly) : Mirror (m.withTables f) (d.withTables g) :=
  ⟨h.available, h.accepting, h.reachable, h.batches, h.commits, hkept, horderly⟩

theorem ensureEncodable_of_whole {t : Text} (h : t.Whole) :
    Database.ensureEncodable t = .ok () := by
  rcases Text.encode_of_whole h with ⟨bytes, hbytes⟩
  rw [Database.ensureEncodable, hbytes]

end Mirror

end Outreach
