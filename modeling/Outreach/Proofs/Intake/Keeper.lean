import Outreach.Proofs.Action
import Outreach.Proofs.Intake.Book
import Outreach.Proofs.Run.System

/-!
# Stores That Keep Customers and Orders

What the calls ask of a store: it finds a customer by their email, takes a
customer with an email of their own, takes an order, and applies one to the
customer that has its email. A store may refuse what it cannot write, and then
nothing has changed. Whatever store answers to this, a step of a call changes the
book in one of the known ways.

## Main definitions

* `Intake.Keeper`: A store as the calls see it.
* `Intake.LawfulKeeper`: What is asked of it.
* `Intake.Shows`: A world with a book.
* `Intake.Opening`: The worlds that runs start from.
* `Intake.Task.ids`, `Intake.Task.Ready`: What a call on its way holds, and what is
  known of it.

## Theorems

* `Intake.Task.advance_effect`: A step of a call ends in one of the known ways.
-/

namespace Outreach

/-- A customer that passed the checks for what a caller gave. -/
def NewCustomer.Drafts (args : NewCustomer) (c : Customer) : Prop :=
  ∃ id now, (args.asked id now).Passes c

/-- An order that passed the checks for what a caller gave. -/
def NewOrder.Drafts (args : NewOrder) (o : Order) : Prop :=
  ∃ id now, (args.asked id now).Passes o

namespace Intake

open Outreach.Action

/-- A store as the calls that take customers and orders in see it. -/
class Keeper (σ : Type) where
  keeping : Keeping
  /-- The customers that a store gives back, oldest first. -/
  customers : σ → Except Fault (List Customer)
  /-- The orders that a store gives back, oldest first. -/
  orders : σ → Except Fault (List Order)
  /-- A store in working order that holds some customers and orders. -/
  Holds : σ → List Customer → List Order → Prop

open Keeper (keeping Holds)

/-- An action that changes nothing but the store. -/
def StoreOnly {σ α : Type} (x : Action σ α) : Prop :=
  ∀ w, Ends x w (fun _ v => ∃ s, v = { w with store := s })
    fun _ v => ∃ s, v = { w with store := s }

/-- What is asked of a store. -/
class LawfulKeeper (σ : Type) [Repository σ] [Keeper σ] : Prop where
  customers_eq {s : σ} {cs : List Customer} {os : List Order} :
    Holds s cs os → Keeper.customers s = .ok cs
  orders_eq {s : σ} {cs : List Customer} {os : List Order} :
    Holds s cs os → Keeper.orders s = .ok os
  storeOnly_customerByEmail (email : Text) :
    StoreOnly (Repository.customerByEmail email : Action σ (Option Customer))
  storeOnly_saveCustomer (c : Customer) : StoreOnly (Repository.saveCustomer c : Action σ Customer)
  storeOnly_saveOrder (o : Order) : StoreOnly (Repository.saveOrder o : Action σ Order)
  storeOnly_applyOrder (email : Text) (amount : Double) (time : Timestamp) :
    StoreOnly (Repository.applyOrder email amount time : Action σ Bool)
  /-- A customer is found just if the email is taken. -/
  ends_customerByEmail {w : World σ} {cs : List Customer} {os : List Order} {args : NewCustomer}
    {c : Customer} : Holds w.store cs os → args.Drafts c →
      Ends (Repository.customerByEmail c.email) w
        (fun found v => Holds v.store cs os ∧
          (found.isSome = true ↔ c.email ∈ cs.map Customer.email))
        fun _ v => Holds v.store cs os ∧ ¬(keeping σ).Takes args
  /-- A customer is stored just if the email is free. -/
  ends_saveCustomer {w : World σ} {cs : List Customer} {os : List Order} {args : NewCustomer}
    {c : Customer} : Holds w.store cs os → args.Drafts c → c.id ∉ cs.map Customer.id →
      Ends (Repository.saveCustomer c) w
        (fun a v => a = c ∧ Holds v.store (cs ++ [(keeping σ).customer c]) os ∧
          c.email ∉ cs.map Customer.email ∧ (keeping σ).Takes args)
        fun f v => Holds v.store cs os ∧
          ((f = .duplicateEntity c.email ∧ c.email ∈ cs.map Customer.email) ∨
            ¬(keeping σ).Takes args)
  /-- An order is stored, or refused without a change. -/
  ends_saveOrder {w : World σ} {cs : List Customer} {os : List Order} {args : NewOrder}
    {o : Order} : Holds w.store cs os → args.Drafts o → o.id ∉ os.map Order.id →
      Ends (Repository.saveOrder o) w
        (fun a v => a = o ∧ Holds v.store cs (os ++ [(keeping σ).order o]))
        fun _ v => Holds v.store cs os
  /-- A stored order is always applied. -/
  ends_applyOrder {w : World σ} {cs : List Customer} {os : List Order} {args : NewOrder} {o : Order}
    {arrival : Timestamp} : Holds w.store cs os → (cs.map Customer.email).Nodup → args.Drafts o →
      (keeping σ).order o ∈ os → inUtc arrival = .ok arrival →
        Ends (Repository.applyOrder o.customerEmail o.amount arrival) w
          (fun _ v => Holds v.store (cs.map (Purchase.on ⟨args, arrival⟩)) os)
          fun _ _ => False

/-- At most identifiers are drawn. -/
structure Draws {σ : Type} (w v : World σ) : Prop where
  supply : v.supply = w.supply
  drawn : w.drawn ≤ v.drawn

theorem Draws.refl {σ : Type} (w : World σ) : Draws w w := ⟨rfl, Nat.le_refl _⟩

theorem Draws.of_storeOnly {σ : Type} {w v : World σ} (h : ∃ s, v = { w with store := s }) :
    Draws w v := by
  rcases h with ⟨s, rfl⟩
  exact ⟨rfl, Nat.le_refl _⟩

/-- What was not drawn twice later was not before. -/
theorem Draws.distinctIds {σ : Type} {w v : World σ} (h : Draws w v) (hdistinct : v.DistinctIds) :
    w.DistinctIds := by
  intro i hi j hj hij
  rw [← h.supply] at hij
  exact hdistinct i (hi.trans_le h.drawn) j (hj.trans_le h.drawn) hij

/-- A world with a book. -/
structure Shows {σ : Type} [Keeper σ] (w : World σ) (b : Book) : Prop where
  holds : Holds w.store b.customers b.orders
  supply : w.supply = b.supply
  drawn : w.drawn = b.drawn
  clock : w.clock = b.clock

/-- A world that runs start from: the store is empty, and the clock shows universal
    time. -/
structure Opening {σ : Type} [Keeper σ] (w : World σ) : Prop where
  empty : Keeper.Holds w.store [] []
  clock : inUtc w.clock = .ok w.clock

/-- Where only the store changes, the rest of the book stays as it is. -/
theorem Shows.change {σ : Type} [Keeper σ] {w v : World σ} {b : Book} (h : Shows w b)
    (hv : ∃ s, v = { w with store := s }) {cs : List Customer} {os : List Order}
    (hholds : Holds v.store cs os) : Shows v { b with customers := cs, orders := os } := by
  rcases hv with ⟨s, rfl⟩
  exact ⟨hholds, h.supply, h.drawn, h.clock⟩

namespace Task

/-- The identifier of what a call is about to store. -/
def ids : Task → List Uuid
  | customer _ (.underway (.checking c)) => [c.id]
  | customer _ (.underway (.storing c)) => [c.id]
  | order _ (.underway (.storing o _)) => [o.id]
  | _ => []

/-- What is known of a call: what it goes on with, or has returned, is what its caller
    asked for. -/
def Ready (K : Keeping) (b : Book) : Task → Prop
  | customer args (.underway (.checking c)) => args.Drafts c
  | customer args (.underway (.storing c)) => args.Drafts c
  | customer args (.returned c) => args.Drafts c
  | order args (.underway (.storing o arrival)) => args.Drafts o ∧ inUtc arrival = .ok arrival
  | order args (.underway (.applying o stored arrival)) =>
    args.Drafts o ∧ stored = o ∧ K.order o ∈ b.orders ∧ inUtc arrival = .ok arrival
  | order args (.returned o) => args.Drafts o
  | _ => True

variable {σ : Type} [Repository σ] [Keeper σ] [LawfulKeeper σ] {w : World σ} {b : Book}

theorem draws_customer (args : NewCustomer) (s : Customers.Stage) :
    Ends (Customers.advance args s) w (fun _ v => Draws w v) fun _ v => Draws w v := by
  cases s with
  | drafting =>
      simp only [Customers.advance, Customers.draft, ends_bind, ends_freshId, ends_now,
        ends_ofExcept, ends_pure]
      have hdraw : w.drawn ≤ w.drawn + 1 := Nat.le_succ _
      exact ⟨fun _ _ => ⟨fun _ _ => ⟨rfl, hdraw⟩, fun _ _ => ⟨rfl, hdraw⟩⟩,
        fun _ _ => ⟨rfl, hdraw⟩⟩
  | checking c =>
      simp only [Customers.advance, Customers.ensureNew, ends_bind, ends_capture, ends_ite,
        ends_throw, ends_pure]
      exact (LawfulKeeper.storeOnly_customerByEmail c.email w).mono
        (fun _ _ h => ⟨fun _ => .of_storeOnly h, fun _ => .of_storeOnly h⟩)
        fun _ _ h => .of_storeOnly h
  | storing c =>
      simp only [Customers.advance, Customers.announce, ends_bind, ends_capture]
      refine (LawfulKeeper.storeOnly_saveCustomer c w).mono ?_ fun _ _ h => .of_storeOnly h
      intro a v h
      have hdraws := Draws.of_storeOnly h
      simp only [ends_note, ends_pure]
      exact ⟨hdraws.supply, hdraws.drawn⟩

theorem draws_order (args : NewOrder) (s : Orders.Stage) :
    Ends (Orders.advance args s) w (fun _ v => Draws w v) fun _ v => Draws w v := by
  cases s with
  | drafting =>
      simp only [Orders.advance, Orders.draft, ends_bind, ends_freshId, ends_now, ends_ofExcept,
        ends_pure]
      have hdraw : w.drawn ≤ w.drawn + 1 := Nat.le_succ _
      exact ⟨fun _ _ => ⟨fun _ _ => ⟨fun _ _ => ⟨rfl, hdraw⟩, fun _ _ => ⟨rfl, hdraw⟩⟩,
        fun _ _ => .refl w⟩, fun _ _ => .refl w⟩
  | storing o arrival =>
      simp only [Orders.advance, ends_bind, ends_pure]
      exact (LawfulKeeper.storeOnly_saveOrder o w).mono (fun _ _ h => .of_storeOnly h)
        fun _ _ h => .of_storeOnly h
  | applying o stored arrival =>
      simp only [Orders.advance, Orders.apply, ends_bind, ends_ite, ends_note, ends_pure]
      refine (LawfulKeeper.storeOnly_applyOrder stored.customerEmail stored.amount arrival w).mono
        (fun found v h => ?_) fun _ _ h => .of_storeOnly h
      have hdraws := Draws.of_storeOnly h
      exact ⟨fun _ => ⟨hdraws.supply, hdraws.drawn⟩, fun _ => hdraws⟩

/-- Whatever the store, a step only ever draws identifiers. -/
theorem advance_draws (t : Task) (w : World σ) : Draws w (t.advance w).2 := by
  cases t with
  | customer args p =>
      cases p with
      | underway s => exact Progress.holds_after (R := fun _ v => Draws w v) (draws_customer args s)
      | returned c => exact .refl w
      | raised f => exact .refl w
  | order args p =>
      cases p with
      | underway s => exact Progress.holds_after (R := fun _ v => Draws w v) (draws_order args s)
      | returned o => exact .refl w
      | raised f => exact .refl w

/-- A step of taking a customer in. -/
theorem ends_customer (hshows : Shows w b) (hclock : inUtc b.clock = .ok b.clock)
    {args : NewCustomer} {s : Customers.Stage}
    (hready : (customer args (.underway s)).Ready (keeping σ) b)
    (hids : ((customer args (.underway s)).ids ++ b.ids).Nodup) :
    Ends (Customers.advance args s) w
      (fun p v => ∃ b', Effect (keeping σ) b (.customer args (.underway s)) b' (.customer args p) ∧
        Shows v b')
      fun f v => ∃ b', Effect (keeping σ) b (.customer args (.underway s)) b'
        (.customer args (.raised f)) ∧ Shows v b' := by
  have hholds := hshows.holds
  cases s with
  | drafting =>
      simp only [Customers.advance, Customers.draft, ends_bind, ends_freshId, ends_now,
        ends_ofExcept, ends_pure, hshows.clock, hshows.supply, hshows.drawn, hclock]
      have hdraw : Shows { w with clock := b.clock, supply := b.supply, drawn := b.drawn + 1 }
          b.draw := ⟨hholds, rfl, rfl, rfl⟩
      refine ⟨fun t ht => ⟨fun c hc => ⟨b.draw, ?_, hdraw⟩, fun f hf => ⟨b.draw, ?_, hdraw⟩⟩,
        fun f hf => ?_⟩
      · cases ht
        exact .drafted (Customer.validated_eq_ok_iff.1 hc)
      · cases ht
        exact .invalid hf
      · cases hf
  | checking c =>
      simp only [Customers.advance, Customers.ensureNew, ends_bind, ends_capture, ends_ite,
        ends_throw, ends_pure]
      refine ((LawfulKeeper.ends_customerByEmail hholds hready).and
        (LawfulKeeper.storeOnly_customerByEmail c.email w)).mono ?_ ?_
      · rintro found v ⟨⟨hsame, hfound⟩, hv⟩
        have hafter := hshows.change hv hsame
        exact ⟨fun hsome => ⟨b, .duplicate (Or.inl rfl) (hfound.1 hsome), hafter⟩,
          fun _ => ⟨b, .cleared, hafter⟩⟩
      · rintro f v ⟨⟨hsame, hbeyond⟩, hv⟩
        exact ⟨b, .unwritable _ (Or.inl rfl) hbeyond, hshows.change hv hsame⟩
  | storing c =>
      have hnew : c.id ∉ b.customers.map Customer.id := fun hid =>
        (List.nodup_cons.1 hids).1 (List.mem_append_left (b.orders.map Order.id) hid)
      simp only [Customers.advance, Customers.announce, ends_bind, ends_capture]
      refine ((LawfulKeeper.ends_saveCustomer hholds hready hnew).and
        (LawfulKeeper.storeOnly_saveCustomer c w)).mono ?_ ?_
      · rintro a v ⟨⟨rfl, hstored, hfree, htakes⟩, hv⟩
        have hafter := hshows.change hv hstored
        simp only [ends_note, ends_pure]
        -- The log is not part of the book.
        exact ⟨_, .enrolled hfree htakes,
          ⟨hafter.holds, hafter.supply, hafter.drawn, hafter.clock⟩⟩
      · rintro f v ⟨⟨hsame, ⟨rfl, hknown⟩ | hbeyond⟩, hv⟩
        · exact ⟨b, .duplicate (Or.inr rfl) hknown, hshows.change hv hsame⟩
        · exact ⟨b, .unwritable _ (Or.inr rfl) hbeyond, hshows.change hv hsame⟩

/-- A step of taking an order in. -/
theorem ends_order (hshows : Shows w b) (hclock : inUtc b.clock = .ok b.clock)
    (hemails : b.emails.Nodup) {args : NewOrder} {s : Orders.Stage}
    (hready : (order args (.underway s)).Ready (keeping σ) b)
    (hids : ((order args (.underway s)).ids ++ b.ids).Nodup) :
    Ends (Orders.advance args s) w
      (fun p v => ∃ b', Effect (keeping σ) b (.order args (.underway s)) b' (.order args p) ∧
        Shows v b')
      fun f v => ∃ b', Effect (keeping σ) b (.order args (.underway s)) b'
        (.order args (.raised f)) ∧ Shows v b' := by
  have hholds := hshows.holds
  cases s with
  | drafting =>
      simp only [Orders.advance, Orders.draft, ends_bind, ends_freshId, ends_now, ends_ofExcept,
        ends_pure, hshows.clock, hshows.supply, hshows.drawn, hclock]
      have hdraw : Shows { w with clock := b.clock, supply := b.supply, drawn := b.drawn + 1 }
          b.draw := ⟨hholds, rfl, rfl, rfl⟩
      refine ⟨fun t ht => ⟨fun u hu => ⟨fun o ho => ⟨b.draw, ?_, hdraw⟩,
        fun f hf => ⟨b.draw, .orderInvalid f, hdraw⟩⟩, fun f hf => ?_⟩, fun f hf => ?_⟩
      · cases ht
        cases hu
        exact .orderDrafted (Order.validated_eq_ok_iff.1 ho)
      · cases hf
      · cases hf
  | storing o arrival =>
      have hnew : o.id ∉ b.orders.map Order.id := fun hid =>
        (List.nodup_cons.1 hids).1 (List.mem_append_right (b.customers.map Customer.id) hid)
      simp only [Orders.advance, ends_bind, ends_pure]
      refine ((LawfulKeeper.ends_saveOrder hholds hready.1 hnew).and
        (LawfulKeeper.storeOnly_saveOrder o w)).mono ?_ ?_
      · rintro a v ⟨⟨rfl, hstored⟩, hv⟩
        exact ⟨_, .shelved, hshows.change hv hstored⟩
      · rintro f v ⟨hsame, hv⟩
        exact ⟨b, .orderUnwritable f, hshows.change hv hsame⟩
  | applying o stored arrival =>
      rcases hready with ⟨hdrafts, rfl, hmem, harrival⟩
      simp only [Orders.advance, Orders.apply, ends_bind, ends_ite, ends_note, ends_pure]
      refine ((LawfulKeeper.ends_applyOrder hholds hemails hdrafts hmem harrival).and
        (LawfulKeeper.storeOnly_applyOrder stored.customerEmail stored.amount arrival w)).mono ?_ ?_
      · rintro found v ⟨happlied, hv⟩
        have hafter := hshows.change hv happlied
        -- An order for an unknown email is noted, and has changed nothing.
        exact ⟨fun _ => ⟨_, .applied, ⟨hafter.holds, hafter.supply, hafter.drawn, hafter.clock⟩⟩,
          fun _ => ⟨_, .applied, hafter⟩⟩
      · exact fun _ _ h => h.1.elim

/-- A step of a call that has not ended ends in one of the known ways. -/
theorem advance_effect (hshows : Shows w b) (hclock : inUtc b.clock = .ok b.clock)
    (hemails : b.emails.Nodup) {t : Task} (hunderway : t.isUnderway = true)
    (hready : t.Ready (keeping σ) b) (hids : (t.ids ++ b.ids).Nodup) :
    ∃ b', Effect (keeping σ) b t b' (t.advance w).1 ∧ Shows (t.advance w).2 b' := by
  cases t with
  | customer args p =>
      cases p with
      | underway s =>
          exact Progress.holds_after
            (R := fun p v => ∃ b', Effect (keeping σ) b _ b' (.customer args p) ∧ Shows v b')
            (ends_customer hshows hclock hready hids)
      | returned c => cases hunderway
      | raised f => cases hunderway
  | order args p =>
      cases p with
      | underway s =>
          exact Progress.holds_after
            (R := fun p v => ∃ b', Effect (keeping σ) b _ b' (.order args p) ∧ Shows v b')
            (ends_order hshows hclock hemails hready hids)
      | returned o => cases hunderway
      | raised f => cases hunderway

end Task

end Intake

end Outreach
