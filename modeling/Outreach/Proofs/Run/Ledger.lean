import Outreach.Proofs.Store.Memory

/-!
# The Ledger of a World

What the calls of a run have in common and depend on: the tables, the supply
of identifiers, and what was handed to the sender. Clock, log, metrics and the
conditions of the store are left out, so that the many steps that only write a
line to the log or count something do not change the ledger at all.

## Main definitions

* `Ledger`, `World.ledger`: The ledger of a world.
* `Ledger.campaign?`, `Ledger.record?`: What is stored under an identifier.
* `Ledger.putCampaign`, `Ledger.putRecord`, `Ledger.putBatch`, `Ledger.draw`,
  `Ledger.hand`: The ways in which it changes.
* `Ledger.Aside`: A change aside from campaigns and records.
* `Ledger.Distinct`: No identifier was drawn twice.
-/

namespace Outreach

/-- What the calls of a run have in common and depend on. -/
structure Ledger where
  tables : Tables Customer
  supply : Nat → Uuid
  /-- How many identifiers were taken from the supply. -/
  drawn : Nat
  handed : List Handover

/-- The ledger of a world. -/
def World.ledger (w : World Memory) : Ledger :=
  ⟨w.store.tables, w.supply, w.drawn, w.sender.handed⟩

namespace Ledger

/-- The campaign with an identifier. -/
def campaign? (k : Ledger) (id : Uuid) : Option Campaign :=
  lookUp Campaign.id id k.tables.campaigns

/-- The record with an identifier. -/
def record? (k : Ledger) (id : Uuid) : Option DeliveryRecord :=
  lookUp DeliveryRecord.id id k.tables.records

/-- The ledger with a campaign stored. -/
def putCampaign (k : Ledger) (c : Campaign) : Ledger :=
  { k with tables := { k.tables with campaigns := upsert Campaign.id c k.tables.campaigns } }

/-- The ledger with a record stored. -/
def putRecord (k : Ledger) (r : DeliveryRecord) : Ledger :=
  { k with tables := { k.tables with records := upsert DeliveryRecord.id r k.tables.records } }

/-- The ledger with a batch of records stored. -/
def putBatch (k : Ledger) (rs : List DeliveryRecord) : Ledger :=
  { k with tables := { k.tables with
      records := rs.foldl (fun xs r => upsert DeliveryRecord.id r xs) k.tables.records } }

/-- The ledger with some more identifiers taken. -/
def draw (k : Ledger) (n : Nat) : Ledger :=
  { k with drawn := k.drawn + n }

/-- The next identifiers of the supply. -/
def next (k : Ledger) (n : Nat) : List Uuid :=
  (List.range' k.drawn n).map k.supply

/-- The ledger with a message handed over. -/
def hand (k : Ledger) (h : Handover) : Ledger :=
  { k with handed := k.handed ++ [h] }

theorem id_of_campaign? {k : Ledger} {id : Uuid} {c : Campaign} (h : k.campaign? id = some c) :
    c.id = id :=
  key_of_lookUp h

theorem id_of_record? {k : Ledger} {id : Uuid} {r : DeliveryRecord} (h : k.record? id = some r) :
    r.id = id :=
  key_of_lookUp h

@[simp] theorem campaign?_putCampaign (k : Ledger) (c : Campaign) (id : Uuid) :
    (k.putCampaign c).campaign? id = if c.id = id then some c else k.campaign? id :=
  lookUp_upsert id c _

@[simp] theorem record?_putRecord (k : Ledger) (r : DeliveryRecord) (id : Uuid) :
    (k.putRecord r).record? id = if r.id = id then some r else k.record? id :=
  lookUp_upsert id r _

/-- A campaign is found by the identifier of one that is to take its place. -/
theorem campaign?_of_id {k : Ledger} {u : Uuid} {c c' : Campaign} (h : k.campaign? u = some c)
    (hid : c'.id = c.id) : k.campaign? c'.id = some c := by
  rw [hid, id_of_campaign? h]
  exact h

/-- So is a record. -/
theorem record?_of_id {k : Ledger} {u : Uuid} {r r' : DeliveryRecord} (h : k.record? u = some r)
    (hid : r'.id = r.id) : k.record? r'.id = some r := by
  rw [hid, id_of_record? h]
  exact h

/-- A campaign in the place of one that looks the same leaves a view of the
    campaigns as it was. -/
theorem map_putCampaign {β : Type} {k : Ledger} {u : Uuid} {c c' : Campaign} (view : Campaign → β)
    (h : k.campaign? u = some c) (hid : c'.id = c.id) (hview : view c' = view c) :
    (k.putCampaign c').tables.campaigns.map view = k.tables.campaigns.map view :=
  map_upsert_of_known view (campaign?_of_id h hid) hview

/-- So it is with records. -/
theorem map_putRecord {β : Type} {k : Ledger} {u : Uuid} {r r' : DeliveryRecord}
    (view : DeliveryRecord → β) (h : k.record? u = some r) (hid : r'.id = r.id)
    (hview : view r' = view r) :
    (k.putRecord r').tables.records.map view = k.tables.records.map view :=
  map_upsert_of_known view (record?_of_id h hid) hview

/-- A change aside from campaigns and records, after which customers still have
    identifiers of their own. -/
structure Aside (k k' : Ledger) : Prop where
  campaigns : k'.tables.campaigns = k.tables.campaigns
  records : k'.tables.records = k.tables.records
  supply : k'.supply = k.supply
  drawn : k.drawn ≤ k'.drawn
  handed : k'.handed = k.handed
  customers : (k.tables.customers.map Customer.id).Nodup →
    (k'.tables.customers.map Customer.id).Nodup

/-- No identifier was drawn twice. -/
def Distinct (k : Ledger) : Prop :=
  ∀ i < k.drawn, ∀ j < k.drawn, k.supply i = k.supply j → i = j

/-- With fewer identifiers drawn it is as true. -/
theorem Distinct.before {k k' : Ledger} (h : k'.Distinct) (hsupply : k'.supply = k.supply)
    (hdrawn : k.drawn ≤ k'.drawn) : k.Distinct := by
  intro i hi j hj hij
  rw [← hsupply] at hij
  exact h i (Nat.lt_of_lt_of_le hi hdrawn) j (Nat.lt_of_lt_of_le hj hdrawn) hij

theorem Aside.refl (k : Ledger) : Aside k k :=
  ⟨rfl, rfl, rfl, Nat.le_refl _, rfl, id⟩

theorem aside_draw (k : Ledger) (n : Nat) : Aside k (k.draw n) :=
  ⟨rfl, rfl, rfl, Nat.le_add_right _ _, rfl, id⟩

end Ledger

end Outreach
