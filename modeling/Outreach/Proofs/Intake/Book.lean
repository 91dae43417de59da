import Outreach.Proofs.Customer.Validation
import Outreach.Proofs.Run.Stage
import Outreach.Proofs.Store.Mirror.Intake
import Outreach.World

/-!
# The Book of Customers and Orders

What calls that take customers and orders in have in common, whatever the store:
the customers and orders as the store gives them back, the clock and the supply of
identifiers. A step of a call changes the book in one of a few ways, or leaves it
as it is.

Stores differ in what they keep of a value and in what they refuse to write. That
is all that the ways in which a step can end depend on.

## Main definitions

* `Intake.Request`, `Intake.Task`: A call as it is asked for, and as it goes on.
* `Intake.Task.advance`: The next step of a call.
* `Intake.Event`: One step of one call.
* `Intake.Event.enrolled?`, `Intake.Event.applied?`: What a step did to customers.
* `Intake.System`, `Intake.System.move`, `Intake.System.run`: All calls together,
  and their runs.
* `Intake.System.arrival?`: When a call came in.
* `NewCustomer.asked`, `NewOrder.asked`: What a caller asks for.
* `Intake.Keeping`: What a store keeps of what is written.
* `Intake.Book`: The book, with `draw`, `enrol`, `shelve` and `apply` as the ways in
  which it changes.
* `Intake.Task.Effect`: The ways in which a step of a call can end.

## Theorems

* `Intake.System.move_advance`: A call that is told to go on takes a step, unless
  there is none or it has ended.
* `Intake.Task.Effect.supply`: Identifiers are only ever drawn.
* `Intake.Task.Effect.customers_eq`: Only a call that returns changes the customers.
-/

namespace Outreach

/-! ## Customers and orders taken in side by side

Any number of calls that take customers and orders in, over one store of any
kind, in any order of their steps. A call reaches the store at most once in a
step, so that every interleaving of the repository calls is a run. A call that
fails has not written before, so that its unit of work has nothing to undo. The
clock may be set between the steps, and always shows universal time.

What a step did stays in the list of events, with the time at which it was taken,
so that the course of a run can be read off its last state. -/

namespace Intake

/-- A call as it is asked for. -/
inductive Request
  | customer (args : NewCustomer)
  | order (args : NewOrder)

/-- A call as it goes on. -/
inductive Task
  | customer (args : NewCustomer) (progress : Progress Customers.Stage Customer)
  | order (args : NewOrder) (progress : Progress Orders.Stage Order)

/-- A call at its first stage. -/
def Request.task : Request → Task
  | .customer args => .customer args (.underway .drafting)
  | .order args => .order args (.underway .drafting)

namespace Task

/-- Whether a call has not ended. -/
def isUnderway : Task → Bool
  | customer _ p => p.isUnderway
  | order _ p => p.isUnderway

/-- The next step of a call. A call that has ended stays as it is. -/
def advance {σ : Type} [Repository σ] : Task → World σ → Task × World σ
  | customer args (.underway s), w =>
    let (p, v) := Progress.after (Customers.advance args s) w
    (customer args p, v)
  | order args (.underway s), w =>
    let (p, v) := Progress.after (Orders.advance args s) w
    (order args p, v)
  | t, w => (t, w)

end Task

/-- One step of one call: its number among the calls of the run, the time on the
    clock, and the call before and after the step. -/
structure Event where
  number : Nat
  time : Timestamp
  before : Task
  after : Task

/-- An order that is applied: what the caller gave, and the time at which the call
    came in. -/
structure Purchase where
  args : NewOrder
  arrival : Timestamp

namespace Event

/-- The customer that was stored, as the call returns it. -/
def enrolled? : Event → Option Customer
  | ⟨_, _, .customer _ (.underway _), .customer _ (.returned c)⟩ => some c
  | _ => none

/-- The order that was applied, whether or not a customer had its email. -/
def applied? : Event → Option Purchase
  | ⟨_, _, .order args (.underway (.applying _ _ arrival)), _⟩ => some ⟨args, arrival⟩
  | _ => none

end Event

/-- A time that clocks show: one of universal time. -/
abbrev Instant := { t : Timestamp // inUtc t = .ok t }

/-- Calls that go on side by side. -/
structure System (σ : Type) where
  world : World σ
  /-- The calls, numbered by their order here. -/
  tasks : List Task
  /-- What the calls did, in order. -/
  events : List Event

/-- A move of a run. -/
inductive Move
  | issue (r : Request)
  | advance (number : Nat)
  | set (now : Instant)

namespace System

variable {σ : Type}

/-- No call was issued yet. -/
def start (w : World σ) : System σ := ⟨w, [], []⟩

/-- The time at which a call came in: that of its first step. -/
def arrival? (s : System σ) (number : Nat) : Option Timestamp :=
  (s.events.find? fun e => e.number = number).map Event.time

/-- The steps of a call. -/
def eventsOf (s : System σ) (number : Nat) : List Event :=
  s.events.filter fun e => e.number = number

/-- When a call came in, by its steps. -/
theorem arrival?_eq (s : System σ) (number : Nat) :
    s.arrival? number = (s.eventsOf number).head?.map Event.time := by
  rw [arrival?, eventsOf, List.head?_filter]

/-- A step of a call is among its steps. -/
theorem mem_eventsOf {s : System σ} {e : Event} (h : e ∈ s.events) : e ∈ s.eventsOf e.number :=
  List.mem_filter.2 ⟨h, decide_eq_true rfl⟩

variable [Repository σ]

/-- The call with a number takes its next step. -/
def step (s : System σ) (number : Nat) (t : Task) : System σ :=
  let (after, world) := t.advance s.world
  ⟨world, s.tasks.set number after, s.events ++ [⟨number, s.world.clock, t, after⟩]⟩

/-- The system after a move. There is nothing to advance under a number that no
    call has, or whose call has ended. -/
def move (s : System σ) : Move → System σ
  | .issue r => { s with tasks := s.tasks ++ [r.task] }
  | .set now => { s with world := { s.world with clock := now } }
  | .advance number =>
    match s.tasks[number]? with
    | none => s
    | some t => if t.isUnderway then s.step number t else s

/-- A call that is told to go on takes a step, unless there is none or it has ended. -/
theorem move_advance (s : System σ) (number : Nat) :
    s.move (.advance number) = s ∨ ∃ t, s.tasks[number]? = some t ∧ t.isUnderway = true ∧
      s.move (.advance number) = s.step number t := by
  rw [move]
  cases ht : s.tasks[number]? with
  | none => exact Or.inl rfl
  | some t =>
      by_cases h : t.isUnderway = true
      · exact Or.inr ⟨t, rfl, h, if_pos h⟩
      · exact Or.inl (if_neg h)

/-- The system after some moves. -/
def run (s : System σ) (moves : List Move) : System σ :=
  moves.foldl move s

end System

end Intake

/-! ## The book of customers and orders -/

/-- The customer that a caller asks for, with an identifier and at a time. -/
def NewCustomer.asked (args : NewCustomer) (id : Uuid) (now : Timestamp) : Customer :=
  ⟨id, args.name, args.email, args.phone, args.totalSpends, args.visits,
    args.lastVisit.getD now, now⟩

/-- The order that a caller asks for, with an identifier and at a time. -/
def NewOrder.asked (args : NewOrder) (id : Uuid) (now : Timestamp) : Order :=
  ⟨id, args.customerEmail, args.amount, args.date.getD now, args.items, now⟩

namespace Intake

/-- What a store keeps of what is written. -/
structure Keeping where
  /-- The phone number that is given back. -/
  phone : Json → Json
  /-- The spend that is given back. -/
  spend : Double → Double
  /-- It is the same number. -/
  spend_eq : ∀ {x : Double}, x.isNaN = false → (spend x).eq x = true
  /-- The creation time of an order that is given back. -/
  created : Timestamp → Timestamp
  /-- Whether a customer that passed the checks can be written. -/
  Takes : NewCustomer → Prop

namespace Keeping

/-- What is kept of a customer. -/
def customer (K : Keeping) (c : Customer) : Customer :=
  { c with phone := K.phone c.phone, totalSpends := K.spend c.totalSpends }

/-- What is kept of an order. -/
def order (K : Keeping) (o : Order) : Order :=
  { o with createdAt := K.created o.createdAt }

end Keeping

/-- A customer after an order, which changes nothing if it is another customer's. -/
def Purchase.on (p : Purchase) (c : Customer) : Customer :=
  Mirror.orderedBy (normalEmail p.args.customerEmail) p.args.amount p.arrival c

@[simp] theorem Purchase.email_on (p : Purchase) (c : Customer) : (p.on c).email = c.email :=
  Mirror.email_orderedBy c

@[simp] theorem Purchase.id_on (p : Purchase) (c : Customer) : (p.on c).id = c.id :=
  Mirror.id_orderedBy c

/-- What the calls have in common and depend on. -/
structure Book where
  /-- The customers as the store gives them back, oldest first. -/
  customers : List Customer
  /-- The orders as the store gives them back, oldest first. -/
  orders : List Order
  supply : Nat → Uuid
  /-- How many identifiers were taken from the supply. -/
  drawn : Nat
  clock : Timestamp

namespace Book

/-- The emails that are taken. -/
def emails (b : Book) : List Text := b.customers.map Customer.email

/-- The identifiers that are in use. -/
def ids (b : Book) : List Uuid := b.customers.map Customer.id ++ b.orders.map Order.id

/-- The next identifier. -/
def next (b : Book) : Uuid := b.supply b.drawn

/-- An identifier is taken. -/
def draw (b : Book) : Book := { b with drawn := b.drawn + 1 }

/-- A customer is stored. -/
def enrol (b : Book) (c : Customer) : Book := { b with customers := b.customers ++ [c] }

/-- An order is stored. -/
def shelve (b : Book) (o : Order) : Book := { b with orders := b.orders ++ [o] }

/-- An order is applied to the customer that has its email. -/
def apply (b : Book) (p : Purchase) : Book := { b with customers := b.customers.map p.on }

theorem emails_enrol (b : Book) (c : Customer) : (b.enrol c).emails = b.emails ++ [c.email] := by
  rw [emails, enrol, List.map_append, List.map_singleton]
  rfl

/-- Orders leave emails and identifiers alone. -/
@[simp] theorem emails_apply (b : Book) (p : Purchase) : (b.apply p).emails = b.emails := by
  simp only [emails, apply, List.map_map, Function.comp_def, Purchase.email_on]

@[simp] theorem ids_apply (b : Book) (p : Purchase) : (b.apply p).ids = b.ids := by
  simp only [ids, apply, List.map_map, Function.comp_def, Purchase.id_on]

theorem ids_enrol (b : Book) (c : Customer) : (b.enrol c).ids.Perm (c.id :: b.ids) := by
  simp only [ids, enrol, List.map_append, List.map_singleton, List.append_assoc,
    List.singleton_append]
  exact List.perm_middle

theorem ids_shelve (b : Book) (o : Order) : (b.shelve o).ids.Perm (o.id :: b.ids) := by
  simp only [ids, shelve, List.map_append, List.map_singleton, ← List.append_assoc]
  exact List.perm_append_singleton _ _

end Book

/-- The ways in which a step of a call can end, with a store that keeps what `K` says:
    book and call before and after. -/
inductive Task.Effect (K : Keeping) : Book → Task → Book → Task → Prop
  | drafted {b : Book} {args : NewCustomer} {c : Customer}
      (passes : (args.asked b.next b.clock).Passes c) :
      Effect K b (.customer args (.underway .drafting))
        b.draw (.customer args (.underway (.checking c)))
  | invalid {b : Book} {args : NewCustomer} {f : Fault}
      (fails : (args.asked b.next b.clock).validated = .error f) :
      Effect K b (.customer args (.underway .drafting)) b.draw (.customer args (.raised f))
  | cleared {b : Book} {args : NewCustomer} {c : Customer} :
      Effect K b (.customer args (.underway (.checking c)))
        b (.customer args (.underway (.storing c)))
  | enrolled {b : Book} {args : NewCustomer} {c : Customer} (unknown : c.email ∉ b.emails)
      (takes : K.Takes args) :
      Effect K b (.customer args (.underway (.storing c)))
        (b.enrol (K.customer c)) (.customer args (.returned c))
  /-- The email was found to be taken, by looking it up or by storing the customer. -/
  | duplicate {b : Book} {args : NewCustomer} {s : Customers.Stage} {c : Customer}
      (stage : s = .checking c ∨ s = .storing c) (known : c.email ∈ b.emails) :
      Effect K b (.customer args (.underway s))
        b (.customer args (.raised (.duplicateCustomer c.email)))
  | unwritable {b : Book} {args : NewCustomer} {s : Customers.Stage} {c : Customer} (f : Fault)
      (stage : s = .checking c ∨ s = .storing c) (beyond : ¬K.Takes args) :
      Effect K b (.customer args (.underway s)) b (.customer args (.raised f))
  | orderDrafted {b : Book} {args : NewOrder} {o : Order}
      (passes : (args.asked b.next b.clock).Passes o) :
      Effect K b (.order args (.underway .drafting))
        b.draw (.order args (.underway (.storing o b.clock)))
  | orderInvalid {b : Book} {args : NewOrder} (f : Fault) :
      Effect K b (.order args (.underway .drafting)) b.draw (.order args (.raised f))
  | shelved {b : Book} {args : NewOrder} {o : Order} {arrival : Timestamp} :
      Effect K b (.order args (.underway (.storing o arrival)))
        (b.shelve (K.order o)) (.order args (.underway (.applying o o arrival)))
  | orderUnwritable {b : Book} {args : NewOrder} {o : Order} {arrival : Timestamp} (f : Fault) :
      Effect K b (.order args (.underway (.storing o arrival))) b (.order args (.raised f))
  | applied {b : Book} {args : NewOrder} {o : Order} {arrival : Timestamp} :
      Effect K b (.order args (.underway (.applying o o arrival)))
        (b.apply ⟨args, arrival⟩) (.order args (.returned o))

namespace Task

variable {K : Keeping} {b b' : Book} {t t' : Task}

/-- The supply stays the same, and what was drawn from it stays drawn. -/
theorem Effect.supply (h : t.Effect K b b' t') :
    b'.supply = b.supply ∧ b.drawn ≤ b'.drawn ∧ b'.clock = b.clock := by
  cases h <;> exact ⟨rfl, by first | exact Nat.le_refl _ | exact Nat.le_succ _, rfl⟩

/-- A step of taking a customer in leaves the customers alone, unless the call
    returns. -/
theorem Effect.customers_eq {args : NewCustomer} {p : Progress Customers.Stage Customer}
    (h : Effect K b t b' (.customer args p)) (hp : ∀ c, p ≠ .returned c) :
    b'.customers = b.customers := by
  cases h with
  | enrolled => exact absurd rfl (hp _)
  | _ => rfl

end Task

end Intake

end Outreach
