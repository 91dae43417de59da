import Outreach.Proofs.Intake.Board
import Outreach.Proofs.Intake.Database
import Outreach.Proofs.Intake.Memory

/-!
# No Order Is Lost or Applied Twice

Storing an order and applying it are two steps, and a customer may be stored between
them. What is kept of a customer is therefore settled by the course of the run alone:
it is what the call that stored the customer has returned, with the orders that were
applied since and have the customer's email, in that order.

A call that has ended leaves its order in the store exactly if it has returned, and has
then applied it once. Both are read off the steps of the call, which tell how far it
has got.

## Main definitions

* `Customer.credited`: A customer after some orders, of which only the customer's own
  count.
* `Intake.Accounted`: A customer whose values follow from what was done.
* `Intake.Task.Traced`: The steps of a call, by how far it has got.
* `Intake.AccountsKept`: What holds of customers and orders in a run.
* `Intake.crossing`: A run as an example.

## Theorems

* `Customer.credited_concat`: One more order is applied to the customer that has its
  email.
* `Intake.Board.Reachable.chronicled`: Customers and orders follow from the steps.
* `Intake.orders_applied_once`: Every order is stored and applied once.
-/

namespace Outreach

open Outreach.Intake

namespace Customer

/-- A customer after some orders that were applied in turn. Orders of others change
    nothing. -/
def credited (c : Customer) (orders : List Purchase) : Customer :=
  let own := orders.filter fun p => normalEmail p.args.customerEmail = c.email
  { c with
    totalSpends := (own.map fun p => p.args.amount).foldl Double.add c.totalSpends
    visits := c.visits + own.length
    lastVisit := (own.getLast?.map Purchase.arrival).getD c.lastVisit }

theorem credited_nil (c : Customer) : c.credited [] = c := by
  simp only [credited, List.filter_nil, List.length_nil, Int.natCast_zero, Int.add_zero]
  rfl

/-- One more order is applied to the customer that has its email. -/
theorem credited_concat (c : Customer) (orders : List Purchase) {p : Purchase}
    (h : inUtc p.arrival = .ok p.arrival) :
    c.credited (orders ++ [p]) = p.on (c.credited orders) := by
  have hemail : (c.credited orders).email = c.email := rfl
  rw [Purchase.on, Mirror.orderedBy, hemail]
  by_cases hown : normalEmail p.args.customerEmail = c.email
  · rw [if_pos hown.symm, recordOrder, h]
    simp only [credited, List.filter_append, List.filter_singleton, decide_eq_true hown, cond_true,
      List.map_append, List.map_singleton, List.foldl_append, List.foldl_cons, List.foldl_nil,
      List.length_append, List.length_singleton, List.getLast?_concat, Option.map_some,
      Option.getD_some, Int.natCast_add, Int.natCast_one, Int.add_assoc]
  · rw [if_neg (Ne.symm hown)]
    simp only [credited, List.filter_append, List.filter_singleton, decide_eq_false hown,
      cond_false, List.append_nil]

end Customer

namespace Intake

variable {K : Keeping} {b b' : Book} {t t' : Task}

/-! ## Customers -/

/-- A customer whose values follow from what was done: one step stored them as the
    call returned them, and orders were applied after it. -/
def Accounted (K : Keeping) (events : List Event) (c : Customer) : Prop :=
  ∃ before e after stored, events = before ++ e :: after ∧ e.enrolled? = some stored ∧
    c = (K.customer stored).credited (after.filterMap Event.applied?)

namespace Accounted

variable {events : List Event} {e : Event} {c : Customer}

theorem enrolled {stored : Customer} (h : e.enrolled? = some stored) :
    Accounted K (events ++ [e]) (K.customer stored) :=
  ⟨events, e, [], stored, rfl, h, (Customer.credited_nil _).symm⟩

/-- What is no order leaves customers as they are. -/
theorem later (h : Accounted K events c) (he : e.applied? = none) :
    Accounted K (events ++ [e]) c := by
  rcases h with ⟨before, e₀, after, stored, rfl, hstored, rfl⟩
  refine ⟨before, e₀, after ++ [e], stored, by simp only [List.append_assoc, List.cons_append],
    hstored, ?_⟩
  rw [List.filterMap_append, List.filterMap_cons_none he, List.filterMap_nil, List.append_nil]

theorem applied (h : Accounted K events c) {p : Purchase} (he : e.applied? = some p)
    (harrival : inUtc p.arrival = .ok p.arrival) : Accounted K (events ++ [e]) (p.on c) := by
  rcases h with ⟨before, e₀, after, stored, rfl, hstored, rfl⟩
  refine ⟨before, e₀, after ++ [e], stored, by simp only [List.append_assoc, List.cons_append],
    hstored, ?_⟩
  rw [List.filterMap_append, List.filterMap_cons_some he, List.filterMap_nil,
    Customer.credited_concat _ _ harrival]

end Accounted

namespace Task

/-- The customer that a call has stored. -/
def enrolled : Task → List Customer
  | customer _ (.returned c) => [c]
  | _ => []

/-- What is kept of the order that a call has stored. -/
def shelved (K : Keeping) : Task → List Order
  | order _ (.underway (.applying o _ _)) => [K.order o]
  | order _ (.returned o) => [K.order o]
  | _ => []

/-- The order that a call has applied, if it came in at a time. -/
def applied (arrival : Option Timestamp) : Task → List Purchase
  | order args (.returned _) => arrival.toList.map fun t => ⟨args, t⟩
  | _ => []

/-- When a call came in, as long as it knows. -/
def arrival? : Task → Option Timestamp
  | order _ (.underway (.storing _ arrival)) => some arrival
  | order _ (.underway (.applying _ _ arrival)) => some arrival
  | _ => none

/-- The steps of a call, by how far it has got. -/
structure Traced (own : List Event) (t : Task) : Prop where
  enrolled : own.filterMap Event.enrolled? = t.enrolled
  applied : own.filterMap Event.applied? = t.applied (own.head?.map Event.time)
  /-- A call came in when it took its first step. -/
  arrival : ∀ time ∈ t.arrival?, own.head?.map Event.time = some time
  /-- Only a call at its first stage has taken no step. -/
  issued : own = [] ↔ ∃ r : Request, t = r.task

theorem traced_task (r : Request) : Traced [] r.task := by
  have hnone : r.task.arrival? = none := by cases r <;> rfl
  refine ⟨?_, ?_, fun time htime => ?_, iff_of_true rfl ⟨r, rfl⟩⟩
  · cases r <;> rfl
  · cases r <;> rfl
  · rw [hnone] at htime
    cases htime

/-- The first step stays the first one. -/
theorem head_later {own : List Event} {time : Timestamp} (h : own.head?.map Event.time = some time)
    (e : Event) : (own ++ [e]).head?.map Event.time = some time := by
  cases own with
  | nil => cases h
  | cons first rest => exact h

/-- A step of a call is added to its steps. -/
theorem Effect.traced (h : Effect K b t b' t') {own : List Event} (htraced : t.Traced own)
    (number : Nat) : t'.Traced (own ++ [⟨number, b.clock, t, t'⟩]) where
  enrolled := by
    rw [List.filterMap_append, htraced.enrolled]
    cases h <;> rfl
  applied := by
    rw [List.filterMap_append, htraced.applied]
    cases h with
    | applied =>
        rw [head_later (htraced.arrival _ rfl)]
        rfl
    | _ => rfl
  arrival := by
    intro time htime
    cases h with
    | orderDrafted passes =>
        -- The first step of a call tells when it came in.
        rw [htraced.issued.2 ⟨.order _, rfl⟩]
        exact htime
    | shelved => exact head_later (htraced.arrival time htime) _
    | _ => cases htime
  issued := by
    refine iff_of_false (List.append_ne_nil_of_right_ne_nil _ (List.cons_ne_nil _ _)) ?_
    rintro ⟨r, hr⟩
    cases h <;> cases r <;> cases hr

/-- A step keeps customers accounted for. -/
theorem Effect.accounted (h : Effect K b t b' t') (hready : t.Ready K b) {events : List Event}
    (haccounted : ∀ c ∈ b.customers, Accounted K events c) (number : Nat) :
    ∀ c ∈ b'.customers, Accounted K (events ++ [⟨number, b.clock, t, t'⟩]) c := by
  cases h with
  | enrolled unknown takes =>
      intro c hc
      rcases List.mem_append.1 hc with hc | hc
      · exact (haccounted c hc).later rfl
      · rw [List.mem_singleton.1 hc]
        exact Accounted.enrolled rfl
  | applied =>
      intro c hc
      rcases List.mem_map.1 hc with ⟨d, hd, rfl⟩
      exact (haccounted d hd).applied rfl hready.2.2.2
  | _ => exact fun c hc => (haccounted c hc).later rfl

/-- Only storing a customer adds one. -/
theorem Effect.customers_ids (h : Effect K b t b' t') (number : Nat) :
    b'.customers.map Customer.id = b.customers.map Customer.id ++
      ([(⟨number, b.clock, t, t'⟩ : Event)].filterMap Event.enrolled?).map Customer.id := by
  cases h with
  | enrolled unknown takes => exact List.map_append
  | applied =>
      simp only [Book.apply, List.map_map, Function.comp_def, Purchase.id_on]
      exact (List.append_nil _).symm
  | _ => exact (List.append_nil _).symm

/-- What a call has stored is a stored order, and the other way round. -/
theorem Effect.perm_shelved (h : Effect K b t b' t') {rest : List Order}
    (hbefore : (t.shelved K ++ rest).Perm b.orders) : (t'.shelved K ++ rest).Perm b'.orders := by
  cases h with
  | shelved => exact List.perm_append_comm.trans (hbefore.append_right [_])
  | _ => exact hbefore

end Task

/-! ## Boards -/

/-- The steps of a call among those of all. -/
theorem eventsOf_concat (events : List Event) (e : Event) (number : Nat) :
    (events ++ [e]).filter (fun e => e.number = number) =
      if e.number = number then events.filter (fun e => e.number = number) ++ [e]
      else events.filter fun e => e.number = number := by
  by_cases h : e.number = number
  · rw [if_pos h, List.filter_append, List.filter_singleton, decide_eq_true h, cond_true]
  · rw [if_neg h, List.filter_append, List.filter_singleton, decide_eq_false h, cond_false,
      List.append_nil]

namespace Board

/-- What the steps tell of a board. -/
structure Chronicled (K : Keeping) (b : Board) : Prop where
  accounted : ∀ c ∈ b.book.customers, Accounted K b.events c
  customers : b.book.customers.map Customer.id =
    (b.events.filterMap Event.enrolled?).map Customer.id
  orders : (b.tasks.flatMap (Task.shelved K)).Perm b.book.orders
  traced : ∀ {n : Nat} {t : Task}, b.tasks[n]? = some t →
    t.Traced (b.events.filter fun e => e.number = n)
  numbered : ∀ e ∈ b.events, e.number < b.tasks.length
  times : ∀ e ∈ b.events, inUtc e.time = .ok e.time

variable {b b' : Board}

theorem Chronicled.step (inv : Chronicled K b) (horderly : Orderly K b) (h : Step K b b') :
    Chronicled K b' := by
  cases h with
  | issued r =>
      refine { inv with orders := ?_, traced := ?_, numbered := ?_ }
      · have hnone : r.task.shelved K = [] := by cases r <;> rfl
        rw [flatMap_snoc hnone]
        exact inv.orders
      · intro n t ht
        rcases Nat.lt_trichotomy n b.tasks.length with hlt | rfl | hgt
        · rw [List.getElem?_append_left hlt] at ht
          exact inv.traced ht
        · rw [List.getElem?_concat_length] at ht
          cases ht
          -- No step has the number of a call that was just issued.
          have hnone : (b.events.filter fun e => e.number = b.tasks.length) = [] :=
            List.filter_eq_nil_iff.2 fun e he hsame =>
              (inv.numbered e he).ne (of_decide_eq_true hsame)
          rw [hnone]
          exact Task.traced_task r
        · have hlength : (b.tasks ++ [r.task]).length ≤ n := by
            rw [List.length_append, List.length_singleton]
            exact hgt
          rw [List.getElem?_eq_none hlength] at ht
          cases ht
      · intro e he
        rw [List.length_append]
        exact (inv.numbered e he).trans_le (Nat.le_add_right _ _)
  | set now => exact ⟨inv.accounted, inv.customers, inv.orders, inv.traced, inv.numbered, inv.times⟩
  | @advanced k number t t' task effect =>
      have hready := horderly.ready _ (List.mem_of_getElem? task)
      have hnumber := (List.getElem?_eq_some_iff.1 task).1
      refine ⟨effect.accounted hready inv.accounted number, ?_, ?_, ?_, ?_, ?_⟩
      · rw [effect.customers_ids number, inv.customers, List.filterMap_append, List.map_append]
      · rcases perm_flatMap_set (f := Task.shelved K) task with ⟨rest, hrest, hset⟩
        exact (hset _).trans (effect.perm_shelved (hrest.symm.trans inv.orders))
      · intro n u hu
        rw [eventsOf_concat]
        by_cases hn : number = n
        · subst hn
          rw [List.getElem?_set_self hnumber] at hu
          cases hu
          rw [if_pos rfl]
          exact effect.traced (inv.traced task) number
        · rw [List.getElem?_set_ne hn] at hu
          rw [if_neg hn]
          exact inv.traced hu
      · intro e he
        rw [List.length_set]
        rcases List.mem_append.1 he with he | he
        · exact inv.numbered e he
        · rw [List.mem_singleton.1 he]
          exact hnumber
      · intro e he
        rcases List.mem_append.1 he with he | he
        · exact inv.times e he
        · rw [List.mem_singleton.1 he]
          exact horderly.clock

/-- Customers and orders follow from the steps. -/
theorem Reachable.chronicled (h : Reachable K b) : Chronicled K b := by
  induction h with
  | start customers orders clock =>
      refine ⟨fun c hc => ?_, ?_, ?_, fun {n t} ht => ?_, fun e he => absurd he List.not_mem_nil,
        fun e he => absurd he List.not_mem_nil⟩
      · rw [customers] at hc
        exact absurd hc List.not_mem_nil
      · simp only [customers, List.filterMap_nil, List.map_nil]
      · rw [orders]
        exact List.Perm.refl _
      · rw [List.getElem?_nil] at ht
        cases ht
  | step before step distinct ih => exact ih.step before.orderly step

end Board

/-! ## Runs -/

variable {σ : Type}

/-- What holds of customers and orders in a run. -/
structure AccountsKept [Repository σ] [Keeper σ] (s : System σ) : Prop where
  /-- The customers are those that a call has stored and returned. Their values are those
      that it returned, with the orders that were applied since. -/
  customers : ∃ cs, Keeper.customers s.world.store = .ok cs ∧
    cs.map Customer.id = (s.events.filterMap Event.enrolled?).map Customer.id ∧
    ∀ c ∈ cs, ∃ before e after args stored, s.events = before ++ e :: after ∧
      s.tasks[e.number]? = some (.customer args (.returned stored)) ∧
      e.enrolled? = some stored ∧ args.Drafts stored ∧
      c = ((Keeper.keeping σ).customer stored).credited (after.filterMap Event.applied?)
  /-- The stored orders are those of the calls that have returned or have only to apply
      theirs, each once. A call that failed has none. -/
  orders : ∃ os, Keeper.orders s.world.store = .ok os ∧ (os.map Order.id).Nodup ∧
    os.Perm (s.tasks.flatMap (Task.shelved (Keeper.keeping σ)))
  /-- A call that has returned has applied its order once, as of the time when it came
      in. -/
  returned : ∀ {n : Nat} {args : NewOrder} {o : Order},
    s.tasks[n]? = some (.order args (.returned o)) → args.Drafts o ∧
      ∃ arrival, s.arrival? n = some arrival ∧ inUtc arrival = .ok arrival ∧
        (s.eventsOf n).filterMap Event.applied? = [⟨args, arrival⟩]
  /-- No other call has applied an order. -/
  applied : ∀ e ∈ s.events, ∀ p ∈ e.applied?, ∃ o,
    s.tasks[e.number]? = some (.order p.args (.returned o)) ∧
      s.arrival? e.number = some p.arrival

namespace Board.Chronicled

variable {s : System σ} {k : Book}

theorem exists_task (h : Chronicled K (s.board k)) {e : Event} (he : e ∈ s.events) :
    ∃ t, s.tasks[e.number]? = some t ∧ t.Traced (s.eventsOf e.number) :=
  ⟨_, List.getElem?_eq_getElem (h.numbered e he), h.traced (List.getElem?_eq_getElem _)⟩

/-- A customer was stored by a call that has returned them. -/
theorem enrolled (h : Chronicled K (s.board k)) {e : Event} (he : e ∈ s.events) {c : Customer}
    (hc : e.enrolled? = some c) :
    ∃ args, s.tasks[e.number]? = some (.customer args (.returned c)) := by
  rcases h.exists_task he with ⟨t, ht, htraced⟩
  have hmem : c ∈ t.enrolled := by
    rw [← htraced.enrolled]
    exact List.mem_filterMap.2 ⟨e, System.mem_eventsOf he, hc⟩
  cases t with
  | order args p => cases hmem
  | customer args p => cases p with
    | returned d =>
        rw [List.mem_singleton.1 hmem]
        exact ⟨args, ht⟩
    | underway s => cases hmem
    | raised f => cases hmem

/-- An order was applied by a call that has returned. -/
theorem applied (h : Chronicled K (s.board k)) {e : Event} (he : e ∈ s.events) {p : Purchase}
    (hp : e.applied? = some p) : ∃ o, s.tasks[e.number]? = some (.order p.args (.returned o)) ∧
      s.arrival? e.number = some p.arrival := by
  rcases h.exists_task he with ⟨t, ht, htraced⟩
  have hmem : p ∈ t.applied (s.arrival? e.number) := by
    rw [System.arrival?_eq, ← htraced.applied]
    exact List.mem_filterMap.2 ⟨e, System.mem_eventsOf he, hp⟩
  cases t with
  | customer args q => cases hmem
  | order args q => cases q with
    | returned o =>
        rcases List.mem_map.1 hmem with ⟨arrival, harrival, rfl⟩
        exact ⟨o, ht, Option.mem_toList.1 harrival⟩
    | underway s => cases hmem
    | raised f => cases hmem

end Board.Chronicled

variable [Repository σ] [Keeper σ] [LawfulKeeper σ]

theorem accountsKept_of_board {s : System σ} {k : Book} (hshows : Shows s.world k)
    (h : (s.board k).Reachable (Keeper.keeping σ)) (hdistinct : k.Distinct) : AccountsKept s where
  customers := by
    have hchronicled := h.chronicled
    refine ⟨k.customers, LawfulKeeper.customers_eq hshows.holds, hchronicled.customers, ?_⟩
    intro c hc
    rcases hchronicled.accounted c hc with ⟨before, e, after, stored, hevents, hstored, hcredited⟩
    have he : e ∈ s.events := by
      have hall : s.events = before ++ e :: after := hevents
      rw [hall]
      exact List.mem_append_right _ List.mem_cons_self
    rcases hchronicled.enrolled he hstored with ⟨args, htask⟩
    have hdrafts : args.Drafts stored := h.orderly.ready _ (List.mem_of_getElem? htask)
    exact ⟨before, e, after, args, stored, hevents, htask, hstored, hdrafts, hcredited⟩
  orders := by
    refine ⟨k.orders, LawfulKeeper.orders_eq hshows.holds, ?_, h.chronicled.orders.symm⟩
    exact (h.orderly.nodup_ids hdistinct).of_append_right.of_append_right
  returned := by
    intro n args o hn
    have htraced := h.chronicled.traced hn
    have hsome : ∃ e, (s.eventsOf n).head? = some e := by
      cases hown : s.eventsOf n with
      | nil =>
          rcases htraced.issued.1 hown with ⟨r, hr⟩
          cases r <;> cases hr
      | cons e rest => exact ⟨e, rfl⟩
    rcases hsome with ⟨e, he⟩
    have harrival : s.arrival? n = some e.time := by rw [System.arrival?_eq, he, Option.map_some]
    have hmem : e ∈ s.events := (List.mem_filter.1 (List.mem_of_head? he)).1
    refine ⟨h.orderly.ready _ (List.mem_of_getElem? hn), e.time, harrival,
      h.chronicled.times e hmem, ?_⟩
    rw [System.arrival?_eq] at harrival
    exact htraced.applied.trans (congrArg (Task.applied · (.order args (.returned o))) harrival)
  applied := fun e he p hp => h.chronicled.applied he hp

/-- In every run, whatever the order of the steps and whichever store it is, no order is
    lost or applied twice. -/
theorem orders_applied_once {w : World σ} (hopening : Opening w) (moves : List Move)
    (hdistinct : ((System.start w).run moves).world.DistinctIds) :
    AccountsKept ((System.start w).run moves) := by
  rcases System.exists_board hopening moves hdistinct with ⟨k, hshows, hreachable⟩
  exact accountsKept_of_board hshows hreachable (hshows.distinct hdistinct)

/-- A run in which orders for one customer cross each other and the customer: the first
    one is applied before the customer is stored, the second one is stored before it and
    applied after it, and after a third one that came in later. A fourth one is
    refused. -/
def crossing : List Move :=
  let order (email : Text) (amount : Int) : Move :=
    .issue (.order ⟨email, Double.ofInt amount, none, []⟩)
  [order " Ann@Example.org" 5, .advance 0, .advance 0, .advance 0,
    .issue (.customer ⟨"Ann", "ann@example.org", .null, Double.zero, 0, none⟩),
    .advance 1, .advance 1,
    order "ann@example.org" 7, .advance 2, .advance 2, .advance 1,
    .set ⟨⟨⟨2024, 1, 2⟩, 0, some 0⟩, inUtc_eq_ok_iff.2 (by decide +kernel)⟩,
    order "ANN@example.org" 2, .advance 3, .advance 3, .advance 3, .advance 2,
    order "ann@example.org" (-1), .advance 4]

/-- Two of the three orders that were stored count for the customer, in either store, and
    the last visit is that of the order that was applied last. -/
theorem orders_applied_once_in_crossing :
    let midnight : Timestamp := ⟨⟨2024, 1, 1⟩, 0, some 0⟩
    let inMemory := (System.start (World.blank midnight)).run crossing
    let inRows := (System.start (World.blankDatabase midnight)).run crossing
    (inMemory.world.DistinctIds ∧ inMemory.world.store.tables.orders.length = 3 ∧
      (inMemory.world.store.tables.customers.map fun c => (c.visits, c.totalSpends, c.lastVisit)) =
        [(2, Double.ofInt 9, midnight)] ∧ AccountsKept inMemory) ∧
    inRows.world.DistinctIds ∧ inRows.world.store.tables.orders.length = 3 ∧
      (inRows.world.store.tables.customers.map fun r =>
        (r.customer.visits, r.customer.totalSpends, r.customer.lastVisit)) =
          [(2, Double.ofInt 9, midnight.naive)] ∧ AccountsKept inRows := by
  intro midnight inMemory inRows
  have hclock : inUtc midnight = .ok midnight := inUtc_eq_ok_iff.2 (by decide +kernel)
  have hmemory : inMemory.world.DistinctIds := by decide +kernel
  have hrows : inRows.world.DistinctIds := by decide +kernel
  exact ⟨⟨hmemory, by decide +kernel, by decide +kernel,
      orders_applied_once (World.opening_blank hclock) crossing hmemory⟩,
    hrows, by decide +kernel, by decide +kernel,
      orders_applied_once (World.opening_blankDatabase hclock) crossing hrows⟩

end Intake

end Outreach
