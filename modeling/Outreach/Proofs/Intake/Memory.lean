import Outreach.Proofs.Intake.Keeper
import Outreach.Proofs.Store.Memory

/-!
# Customers and Orders Kept in Memory

The store in memory keeps customers and orders as they are, and takes whatever
passed its checks.

## Main definitions

* The instances of `Intake.Keeper` and `Intake.LawfulKeeper`.

## Theorems

* `World.opening_blank`: Runs may start from a blank world.
-/

namespace Outreach

namespace Memory

open Outreach.Intake

variable {w : World Memory} {cs : List Customer} {os : List Order}

/-- Everything is kept as it is. -/
def keeping : Keeping where
  phone := id
  spend := id
  spend_eq := fun {x} h => by
    cases x with
    | nan => cases h
    | number negative rank rank_le => exact decide_eq_true rfl
  created := id
  Takes := fun _ => True

instance : Keeper Memory where
  keeping := keeping
  customers := fun m => .ok m.tables.customers
  orders := fun m => .ok m.tables.orders
  Holds := fun m cs os => m.tables.customers = cs ∧ m.tables.orders = os

theorem storeOnly_ask {α : Type} (f : Memory → Except Fault α) : StoreOnly (ask f) := by
  intro w
  simp only [ends_ask]
  exact ⟨fun _ _ => ⟨_, rfl⟩, fun _ _ => ⟨_, rfl⟩⟩

theorem storeOnly_change {α : Type} (f : Memory → Timestamp → Except Fault (Memory × α)) :
    StoreOnly (change f) := by
  intro w
  cases hf : f w.store w.time with
  | error e =>
      rw [ends_change_of_error hf]
      exact ⟨_, rfl⟩
  | ok x =>
      rw [ends_change_of_ok hf]
      exact ⟨_, rfl⟩

instance : LawfulKeeper Memory where
  customers_eq := fun h => congrArg Except.ok h.1
  orders_eq := fun h => congrArg Except.ok h.2
  storeOnly_customerByEmail := fun email => storeOnly_ask _
  storeOnly_saveCustomer := fun c => storeOnly_change _
  storeOnly_saveOrder := fun o w => ⟨_, rfl⟩
  storeOnly_applyOrder := fun email amount time w => by
    simp only [Repository.applyOrder, Action.ends_bind, Action.ends_get, Action.ends_set,
      Action.ends_ofExcept]
    exact ⟨fun _ _ => ⟨_, rfl⟩, fun _ _ => ⟨_, rfl⟩⟩
  ends_customerByEmail := by
    rintro w cs os args c ⟨rfl, rfl⟩ ⟨id, now, hc⟩
    have hfound : (w.store.customerByEmail c.email).isSome = true ↔
        c.email ∈ w.store.tables.customers.map Customer.email := by
      simp only [customerByEmail, hc.regular.normal, List.find?_isSome, decide_eq_true_eq,
        List.mem_map]
    simp only [Repository.customerByEmail, ends_ask_ok]
    exact ⟨⟨rfl, rfl⟩, hfound⟩
  ends_saveCustomer := by
    rintro w cs os args c ⟨rfl, rfl⟩ hc hnew
    simp only [Repository.saveCustomer]
    by_cases h : c.email ∈ w.store.tables.customers.map Customer.email
    · rw [ends_change_of_error (by rw [saveCustomer_of_new hnew, if_pos h]; rfl)]
      exact ⟨⟨rfl, rfl⟩, Or.inl ⟨rfl, h⟩⟩
    · rw [ends_change_of_ok (by rw [saveCustomer_of_new hnew, if_neg h]; rfl)]
      exact ⟨rfl, ⟨rfl, rfl⟩, h, trivial⟩
  ends_saveOrder := by
    rintro w cs os args o ⟨rfl, rfl⟩ ho hnew
    have hstored : upsert Order.id o w.store.tables.orders = w.store.tables.orders ++ [o] :=
      upsert_of_new hnew
    simp only [Repository.saveOrder, Action.ends_bind, ends_put, Action.ends_pure]
    exact ⟨trivial, rfl, hstored⟩
  ends_applyOrder := by
    rintro w cs os args o arrival ⟨rfl, rfl⟩ hemails ⟨id, now, ho⟩ hmem harrival
    have hemail : normalEmail o.customerEmail = normalEmail args.customerEmail := by
      rw [ho.email_eq]
      exact normalEmail_normalEmail _
    have hamount : o.amount = args.amount := ho.amount_eq
    have happly : Memory.applyTo (normalEmail args.customerEmail) args.amount arrival _ = _ :=
      Mirror.applyTo_eq args.amount harrival hemails
    simp only [Repository.applyOrder, Action.ends_bind, Action.ends_get, Action.ends_set,
      Action.ends_ofExcept, applyOrder, hemail, hamount, happly]
    refine ⟨fun _ _ => ⟨rfl, rfl⟩, fun f hf => ?_⟩
    cases hf

end Memory

/-- Runs may start from a blank world whose clock shows universal time. -/
theorem World.opening_blank {clock : Timestamp} (h : inUtc clock = .ok clock) :
    Intake.Opening (World.blank clock) := ⟨⟨rfl, rfl⟩, h⟩

end Outreach
