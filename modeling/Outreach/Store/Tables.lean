import Outreach.Campaign.Basic
import Outreach.Customer.Basic
import Outreach.Delivery.Record

/-!
# Tables

What a store holds: customers, campaigns, delivery records and orders, each in
the order in which they were first stored, and the orders in which listings
show them.

## Main definitions

* `Tables`: The contents of a store.
* `upsert`: A list with one entity stored.
* `inTimeOrder`: Entities by time and identifier.
* `newestFirst`: Entities by time, newest first.
-/

namespace Outreach

/-- The contents of a store that keeps customers as `κ`. -/
structure Tables (κ : Type) where
  customers : List κ
  campaigns : List Campaign
  records : List DeliveryRecord
  orders : List Order
  deriving Inhabited

/-- Nothing is stored. -/
def Tables.empty {κ : Type} : Tables κ := ⟨[], [], [], []⟩

/-- A list with an entity stored: in the place of the one with its identifier,
    or at the end. -/
def upsert {α : Type} (key : α → Uuid) (a : α) : List α → List α
  | [] => [a]
  | b :: rest => if key b = key a then a :: rest else b :: upsert key a rest

/-- The entity with an identifier. -/
def lookUp {α : Type} (key : α → Uuid) (id : Uuid) (xs : List α) : Option α :=
  xs.find? fun a => key a = id

/-- Whether one pair of time and identifier comes no later than another. -/
def noLater (s t : Int × Uuid) : Bool :=
  decide (s.1 < t.1) || (decide (s.1 = t.1) && decide (s.2.toNat ≤ t.2.toNat))

/-- Entities by time and identifier. -/
def inTimeOrder {α : Type} (time : α → Int) (key : α → Uuid) (xs : List α) : List α :=
  xs.mergeSort fun a b => noLater (time a, key a) (time b, key b)

/-- Entities by time, newest first; those of one time keep their order. -/
def newestFirst {α : Type} (time : α → Int) (xs : List α) : List α :=
  xs.mergeSort fun a b => decide (time b ≤ time a)

/-- Entities can be put in order only if their timestamps are all aware or all
    naive. -/
def comparable {α : Type} (time : α → Timestamp) (xs : List α) : Bool :=
  xs.all (fun a => (time a).isAware) || xs.all fun a => !(time a).isAware

end Outreach
