import Outreach.Proofs.Intake.Keeper
import Outreach.Proofs.Store.Mirror.Intake

/-!
# Customers and Orders Kept in a Database

A row keeps the text of a phone number, a spend without the sign of zero, and
timestamps without their zone. A store whose rows mirror customers and orders gives
these back, apart from that. It refuses a customer whose values no row can hold: the
row would have been refused before it was written, so that nothing changes.

## Main definitions

* `NewCustomer.Writable`: A customer that a row can hold.
* The instances of `Intake.Keeper` and `Intake.LawfulKeeper`.
* `World.blankDatabase`: A world to start from.

## Theorems

* `Database.saveCustomer_storedPhone`: Writing what a row gives back is writing the
  value itself.
* `Database.writable_of_saveCustomer`: Only what a row can hold is written.
* `World.opening_blankDatabase`: Runs may start from a blank world with a database.
-/

namespace Outreach

open Outreach.Intake

/-- A customer that a row can hold: with texts that have bytes in the form in which they
    are written, a phone number for its column, a spend that is a number, and visits
    that fit. -/
structure NewCustomer.Writable (args : NewCustomer) : Prop where
  name : args.name.strip.Whole
  email : (normalEmail args.email).Whole
  phone : Database.ensurePhone args.phone = .ok ()
  spend : args.totalSpends.isNaN = false
  visits : fitsColumn args.visits = true

/-- What a row keeps of a customer after an order is what it keeps of the customer,
    after the order. -/
theorem Customer.kept_orderedBy {c : Customer} (hc : c.Storable) (email : Text) {amount : Double}
    (hamount : amount.isNaN = false) (hpositive : amount.le Double.zero = false)
    (time : Timestamp) :
    (Mirror.orderedBy email amount time c).kept = Mirror.orderedBy email amount time c.kept := by
  rcases Double.add_of_positive hc.number hc.spend hamount hpositive with
    ⟨rank, hle, hadd, hstored⟩
  have hsum : Database.storedDouble (c.totalSpends.add amount) =
      (Database.storedDouble c.totalSpends).add amount := by
    rw [hadd, hstored, Double.storedDouble_of_positive]
  have hemail : c.kept.email = c.email := rfl
  rw [Mirror.orderedBy, Mirror.orderedBy, hemail]
  by_cases he : c.email = email
  · rw [if_pos he, if_pos he, recordOrder, recordOrder]
    cases inUtc time <;> simp only [kept, hsum]
  · rw [if_neg he, if_neg he]

namespace Database

variable {d d' : Database} {c : Customer} {now : Timestamp}

/-! ## Phone numbers -/

theorem storedPhone_storedPhone (phone : Json) :
    storedPhone (storedPhone phone) = storedPhone phone := by
  have htext : storedPhone phone = .null ∨ ∃ t, storedPhone phone = .text t := by
    rw [storedPhone]
    cases phoneValue phone with
    | text t => exact Or.inr ⟨t, rfl⟩
    | _ => exact Or.inl rfl
  rcases htext with h | ⟨t, h⟩ <;> rw [h] <;> rfl

theorem whole_of_ensureEncodable {t : Text} (h : ensureEncodable t = .ok ()) : t.Whole := by
  rw [ensureEncodable] at h
  cases ht : t.encode with
  | ok bytes => exact Text.whole_of_encode ht
  | error place =>
      rw [ht] at h
      cases h

/-- What a row gives back of a phone number that was written is a text or nothing. -/
theorem isPhone_storedPhone {phone : Json} (h : ensurePhone phone = .ok ()) :
    (storedPhone phone).IsPhone := by
  cases phone with
  | text t => exact whole_of_ensureEncodable h
  | int n => exact Text.whole_ofString _
  | bool b => cases b <;> exact Text.whole_ofString _
  | double x =>
      rw [storedPhone, phoneValue]
      by_cases hx : x.isNaN = true
      · rw [if_pos hx]
        trivial
      · rw [if_neg hx]
        exact Text.whole_ofString _
  | _ => trivial

/-! ## Customers -/

/-- What is given back of a customer, but for the sign of their spend. -/
def withStoredPhone (c : Customer) : Customer := { c with phone := storedPhone c.phone }

/-- Writing what a row gives back is writing the value itself. -/
theorem saveCustomer_storedPhone (hphone : ensurePhone c.phone = .ok ()) :
    d.saveCustomer (withStoredPhone c) now = d.saveCustomer c now := by
  have hstored : ensurePhone (storedPhone c.phone) = .ok () := by
    have hisPhone := isPhone_storedPhone hphone
    cases hp : storedPhone c.phone with
    | null => rfl
    | text t =>
        rw [hp] at hisPhone
        exact Mirror.ensureEncodable_of_whole hisPhone
    | _ =>
        rw [hp] at hisPhone
        exact hisPhone.elim
  have hwritable : ensureWritable (withStoredPhone c) = ensureWritable c := by
    simp only [ensureWritable, withStoredPhone, hphone, hstored]
    rfl
  have hrow : customerRow (withStoredPhone c) now = customerRow c now := by
    simp only [customerRow, withStoredPhone, storedPhone_storedPhone]
  rw [saveCustomer, saveCustomer, hwritable, hrow]
  rfl

/-- The checks before a customer is written. -/
theorem ensureWritable_eq_ok (h : ensureWritable c = .ok ()) : c.name.Whole ∧ c.email.Whole ∧
    ensurePhone c.phone = .ok () ∧ fitsColumn c.visits = true := by
  rw [ensureWritable] at h
  cases hname : ensureEncodable c.name with
  | error f =>
      rw [hname] at h
      cases h
  | ok _ =>
      cases hemail : ensureEncodable c.email with
      | error f =>
          rw [hname, hemail] at h
          cases h
      | ok _ =>
          cases hphone : ensurePhone c.phone with
          | error f =>
              rw [hname, hemail, hphone] at h
              cases h
          | ok _ =>
              rw [hname, hemail, hphone] at h
              rcases passed_of_unless h with ⟨hvisits, -⟩
              refine ⟨whole_of_ensureEncodable hname, whole_of_ensureEncodable hemail, rfl, ?_⟩
              rwa [Bool.not_eq_true', Bool.not_eq_false] at hvisits

/-- Only what a row can hold is written. -/
theorem writable_of_saveCustomer {args : NewCustomer} (hc : args.Drafts c)
    (h : d.saveCustomer c now = .ok d') : args.Writable := by
  rcases hc with ⟨id, clock, hc⟩
  rw [saveCustomer] at h
  cases hwritable : ensureWritable c with
  | error f =>
      rw [hwritable] at h
      cases h
  | ok u =>
      rw [hwritable] at h
      rcases passed_of_unless h with ⟨hrefused, -⟩
      rw [Bool.or_eq_true, not_or, Bool.not_eq_true] at hrefused
      rcases ensureWritable_eq_ok hwritable with ⟨hname, hemail, hphone, hvisits⟩
      rw [hc.name_eq] at hname
      rw [hc.email_eq] at hemail
      rw [hc.phone_eq] at hphone
      rw [hc.visits_eq] at hvisits
      rw [hc.spend_eq] at hrefused
      exact ⟨hname, hemail, hphone, hrefused.1, hvisits⟩

/-- What is given back of a customer that a row can hold can be stored. -/
theorem storable_withStoredPhone {args : NewCustomer} (hc : args.Drafts c) (h : args.Writable) :
    (withStoredPhone c).Storable := by
  rcases hc with ⟨id, clock, hc⟩
  have hpasses : Customer.Passes { args.asked id clock with phone := storedPhone args.phone }
      (withStoredPhone c) := by
    refine ⟨hc.named, hc.mailed, hc.spend, hc.visits, hc.lastVisit, hc.createdAt, ?_⟩
    rw [withStoredPhone, hc.phone_eq, hc.same]
    rfl
  refine hpasses.storable ?_ ?_ ?_ ?_
  · rw [hpasses.name_eq]
    exact h.name
  · rw [hpasses.email_eq]
    exact h.email
  · rw [hpasses.phone_eq]
    exact isPhone_storedPhone h.phone
  · rw [hpasses.spend_eq]
    exact h.spend

/-- Only an email that has bytes is looked up. -/
theorem whole_of_customerByEmail {email : Text} {found : Option Customer}
    (h : d.customerByEmail email = .ok found) : (normalEmail email).Whole := by
  rw [customerByEmail] at h
  cases hrows : d.customerRows with
  | error f =>
      rw [hrows] at h
      cases h
  | ok rows =>
      cases hemail : ensureEncodable (normalEmail email) with
      | error f =>
          simp only [hrows, hemail, bind, Except.bind] at h
          cases h
      | ok _ => exact whole_of_ensureEncodable hemail

/-- Only an order whose email has bytes and whose amount is a number is written. -/
theorem writable_of_saveOrder {o : Order} (h : d.saveOrder o = .ok d') :
    o.customerEmail.Whole ∧ o.amount.isNaN = false := by
  rw [saveOrder] at h
  cases hemail : ensureEncodable o.customerEmail with
  | error f =>
      rw [hemail] at h
      cases h
  | ok _ =>
      rw [hemail] at h
      rcases passed_of_unless h with ⟨hnumber, -⟩
      exact ⟨whole_of_ensureEncodable hemail, Bool.not_eq_true _ ▸ hnumber⟩

/-! ## The laws -/

/-- What rows keep. -/
def keeping : Keeping where
  phone := storedPhone
  spend := storedDouble
  spend_eq := Double.eq_storedDouble
  created := Timestamp.naive
  Takes := NewCustomer.Writable

/-- A store in working order whose rows give some customers and orders back. -/
def Holds (d : Database) (cs : List Customer) (os : List Order) : Prop :=
  ∃ m, Mirror m d ∧ m.tables.customers.map Customer.kept = cs ∧
    m.tables.orders.map keeping.order = os

instance : Keeper Database where
  keeping := keeping
  customers := fun d => d.tables.customers.mapM loaded
  orders := fun d => d.tables.orders.mapM Order.validated
  Holds := Holds

theorem storeOnly_ask {α : Type} (f : Database → Timestamp → Except Fault α) :
    StoreOnly (ask f) := by
  intro w
  simp only [ask, Action.ends_bind, Action.ends_get, Action.ends_ofExcept]
  exact ⟨fun _ _ => ⟨_, rfl⟩, fun _ _ => ⟨_, rfl⟩⟩

theorem storeOnly_change {α : Type} (f : Database → Timestamp → Except Fault (Database × α)) :
    StoreOnly (change f) := by
  intro w
  unfold Action.Ends
  cases hf : f w.store w.time with
  | error e =>
      rw [change_of_error hf]
      exact ⟨_, rfl⟩
  | ok x =>
      rw [change_of_ok hf]
      exact ⟨_, rfl⟩

variable {w : World Database} {cs : List Customer} {os : List Order}

/-- A customer is found just if the email is taken. -/
theorem ends_customerByEmail {args : NewCustomer} (h : Holds w.store cs os) (hc : args.Drafts c) :
    Action.Ends (Repository.customerByEmail c.email) w
      (fun found v => Holds v.store cs os ∧
        (found.isSome = true ↔ c.email ∈ cs.map Customer.email))
      fun _ v => Holds v.store cs os ∧ ¬args.Writable := by
  rcases h with ⟨m, hmirror, rfl, rfl⟩
  rcases hc with ⟨id, clock, hc⟩
  simp only [Repository.customerByEmail, ask, Action.ends_bind, Action.ends_get,
    Action.ends_ofExcept]
  refine ⟨fun found hfound => ⟨⟨m, hmirror, rfl, rfl⟩, ?_⟩,
    fun f hf => ⟨⟨m, hmirror, rfl, rfl⟩, fun hwritable => ?_⟩⟩
  · have hwhole : c.email.Whole := by
      rw [← hc.regular.normal]
      exact whole_of_customerByEmail hfound
    rw [hmirror.customerByEmail hwhole, Except.ok.injEq] at hfound
    rw [← hfound]
    simp only [Option.isSome_map, Memory.customerByEmail, hc.regular.normal, List.find?_isSome,
      decide_eq_true_eq, List.map_map, List.mem_map, Function.comp_apply, Customer.kept]
  · have hwhole : c.email.Whole := by
      rw [hc.email_eq]
      exact hwritable.email
    rw [hmirror.customerByEmail hwhole] at hf
    cases hf

/-- A customer is stored just if the email is free. -/
theorem ends_saveCustomer {args : NewCustomer} (h : Holds w.store cs os) (hc : args.Drafts c)
    (hnew : c.id ∉ cs.map Customer.id) :
    Action.Ends (Repository.saveCustomer c) w
      (fun a v => a = c ∧ Holds v.store (cs ++ [keeping.customer c]) os ∧
        c.email ∉ cs.map Customer.email ∧ args.Writable)
      fun f v => Holds v.store cs os ∧
        ((f = .duplicateEntity c.email ∧ c.email ∈ cs.map Customer.email) ∨ ¬args.Writable) := by
  rcases h with ⟨m, hmirror, rfl, rfl⟩
  have hids : (withStoredPhone c).id ∉ m.tables.customers.map Customer.id := by
    rw [List.map_map] at hnew
    exact hnew
  -- What a row can hold is taken or refused by both stores.
  have hboth (hwritable : args.Writable) :
      (∃ f, m.saveCustomer (withStoredPhone c) = .error f ∧
        w.store.saveCustomer c w.time = .error f) ∨
      ∃ m' d', m.saveCustomer (withStoredPhone c) = .ok m' ∧
        w.store.saveCustomer c w.time = .ok d' ∧ Mirror m' d' ∧
          m'.tables.ids ⊆ (withStoredPhone c).id :: m.tables.ids := by
    have hstorable := storable_withStoredPhone hc hwritable
    rcases hc with ⟨id, clock, hc⟩
    have hphone : ensurePhone c.phone = .ok () := by
      rw [hc.phone_eq]
      exact hwritable.phone
    have hvisits : fitsColumn c.visits = true := by
      rw [hc.visits_eq]
      exact hwritable.visits
    rw [← saveCustomer_storedPhone hphone]
    exact hmirror.saveCustomer hstorable hvisits hids w.time
  have hemails : (m.tables.customers.map Customer.kept).map Customer.email =
      m.tables.customers.map Customer.email := by
    rw [List.map_map]
    rfl
  have hmemory := Memory.saveCustomer_of_new hids
  rw [hemails]
  simp only [Repository.saveCustomer]
  cases hd : w.store.saveCustomer c w.time with
  | error f =>
      have hfailed : change (fun d now => return (← d.saveCustomer c now, c)) w = .error f w :=
        change_of_error (by rw [hd]; rfl)
      rw [Action.Ends, hfailed]
      refine ⟨⟨m, hmirror, rfl, rfl⟩, ?_⟩
      by_cases hwritable : args.Writable
      · rcases hboth hwritable with ⟨g, hm, hg⟩ | ⟨m', d', hm, hd', -, -⟩
        · rw [hd] at hg
          cases hg
          by_cases htaken : (withStoredPhone c).email ∈ m.tables.customers.map Customer.email
          · rw [hmemory, if_pos htaken] at hm
            cases hm
            exact Or.inl ⟨rfl, htaken⟩
          · rw [hmemory, if_neg htaken] at hm
            cases hm
        · rw [hd] at hd'
          cases hd'
      · exact Or.inr hwritable
  | ok d =>
      have hdone : change (fun d now => return (← d.saveCustomer c now, c)) w =
          .ok c { w with store := d } := change_of_ok (by rw [hd]; rfl)
      have hwritable := writable_of_saveCustomer hc hd
      rw [Action.Ends, hdone]
      rcases hboth hwritable with ⟨g, hm, hg⟩ | ⟨m', d', hm, hd', hstored, -⟩
      · rw [hd] at hg
        cases hg
      · rw [hd] at hd'
        cases hd'
        by_cases htaken : (withStoredPhone c).email ∈ m.tables.customers.map Customer.email
        · rw [hmemory, if_pos htaken] at hm
          cases hm
        · rw [hmemory, if_neg htaken] at hm
          cases hm
          refine ⟨rfl, ⟨_, hstored, ?_, rfl⟩, htaken, hwritable⟩
          simp only [Memory.withTables, List.map_append, List.map_singleton]
          rfl

/-- An order is stored, or refused without a change. -/
theorem ends_saveOrder {args : NewOrder} {o : Order} (h : Holds w.store cs os)
    (ho : args.Drafts o) (hnew : o.id ∉ os.map Order.id) :
    Action.Ends (Repository.saveOrder o) w
      (fun a v => a = o ∧ Holds v.store cs (os ++ [keeping.order o]))
      fun _ v => Holds v.store cs os := by
  rcases h with ⟨m, hmirror, rfl, rfl⟩
  rcases ho with ⟨id, clock, ho⟩
  have hids : o.id ∉ m.tables.orders.map Order.id := by
    rw [List.map_map] at hnew
    exact hnew
  simp only [Repository.saveOrder]
  cases hd : w.store.saveOrder o with
  | error f =>
      have hfailed : change (fun d _ => return (← d.saveOrder o, o)) w = .error f w :=
        change_of_error (by rw [hd]; rfl)
      rw [Action.Ends, hfailed]
      exact ⟨m, hmirror, rfl, rfl⟩
  | ok d =>
      have hdone : change (fun d _ => return (← d.saveOrder o, o)) w =
          .ok o { w with store := d } := change_of_ok (by rw [hd]; rfl)
      have hstorable : o.Storable :=
        ho.storable (writable_of_saveOrder hd).1 (writable_of_saveOrder hd).2
      rw [Action.Ends, hdone]
      rcases hmirror.saveOrder hstorable hids with ⟨d', hd', hstored, -⟩
      rw [hd] at hd'
      cases hd'
      refine ⟨rfl, _, hstored, rfl, ?_⟩
      simp only [Memory.withTables, upsert_of_new hids, List.map_append, List.map_singleton]

/-- A stored order is always applied. -/
theorem ends_applyOrder {args : NewOrder} {o : Order} {arrival : Timestamp}
    (h : Holds w.store cs os) (ho : args.Drafts o) (hmem : keeping.order o ∈ os)
    (harrival : inUtc arrival = .ok arrival) :
    Action.Ends (Repository.applyOrder o.customerEmail o.amount arrival) w
      (fun _ v => Holds v.store (cs.map (Purchase.on ⟨args, arrival⟩)) os) fun _ _ => False := by
  rcases h with ⟨m, hmirror, rfl, rfl⟩
  rcases ho with ⟨id, clock, ho⟩
  -- The order was stored, so a row can hold its values.
  rcases List.mem_map.1 hmem with ⟨x, hx, hsame⟩
  have hstorable := hmirror.orderly.orders x hx
  have hemail : x.customerEmail = o.customerEmail := by
    injection hsame
  have hamount : x.amount = o.amount := by
    injection hsame
  have hnumber := hstorable.number
  have hpositive := hstorable.positive
  have hwhole := hstorable.wholeEmail
  rw [hamount] at hnumber hpositive
  rw [hemail] at hwhole
  rcases hmirror.applyOrder hnumber hpositive harrival hwhole w.time with
    ⟨m', d', found, hm, hd, hafter, -⟩
  have hdone : change (fun d now => d.applyOrder o.customerEmail o.amount arrival now) w =
      .ok found { w with store := d' } := change_of_ok hd
  simp only [Repository.applyOrder]
  rw [Action.Ends, hdone]
  rw [Memory.applyOrder, Mirror.applyTo_eq o.amount harrival hmirror.orderly.emails] at hm
  cases hm
  refine ⟨_, hafter, ?_, rfl⟩
  simp only [Memory.withTables, List.map_map]
  refine List.map_congr_left fun y hy => ?_
  have hkept := Customer.kept_orderedBy (hmirror.orderly.customers y hy)
    (normalEmail args.customerEmail) hnumber hpositive arrival
  simp only [Function.comp_apply, Purchase.on, ho.email_eq, normalEmail_normalEmail,
    NewOrder.asked]
  rw [ho.amount_eq] at hkept ⊢
  exact hkept

instance : LawfulKeeper Database where
  customers_eq := by
    rintro d cs os ⟨m, hmirror, rfl, rfl⟩
    exact Mirror.mapM_loaded hmirror.kept.customers hmirror.orderly.customers
  orders_eq := by
    rintro d cs os ⟨m, hmirror, rfl, rfl⟩
    change d.tables.orders.mapM Order.validated = _
    rw [hmirror.kept.orders, List.mapM_map]
    exact mapM_eq_map fun o ho => Order.validated_orderRow (hmirror.orderly.orders o ho)
  storeOnly_customerByEmail := fun email => storeOnly_ask _
  storeOnly_saveCustomer := fun c => storeOnly_change _
  storeOnly_saveOrder := fun o => storeOnly_change _
  storeOnly_applyOrder := fun email amount time => storeOnly_change _
  ends_customerByEmail := ends_customerByEmail
  ends_saveCustomer := ends_saveCustomer
  ends_saveOrder := ends_saveOrder
  ends_applyOrder := fun h _ ho hmem harrival => ends_applyOrder h ho hmem harrival

end Database

/-- A blank world with a database. -/
def World.blankDatabase (clock : Timestamp) : World Database :=
  { World.blank clock with store := Database.empty }

/-- Runs may start from it if the clock shows universal time. -/
theorem World.opening_blankDatabase {clock : Timestamp} (h : inUtc clock = .ok clock) :
    Opening (World.blankDatabase clock) := ⟨⟨Memory.empty, Mirror.empty, rfl, rfl⟩, h⟩

end Outreach
