import Outreach.Store.Repository

/-!
# Taking Customers and Orders In

A customer is stored unless their email is known. An order is stored in any
case and, if its email belongs to a customer, applied to that customer at the
time at which it came in.

Each call is put together from pieces that touch the store at most once.

## Main definitions

* `NewCustomer`, `NewOrder`: What a caller gives.
* `Customers.create`: Taking a customer in.
* `Orders.ingest`: Taking an order in.
-/

namespace Outreach

variable {σ : Type}

/-- What a caller gives for a new customer. -/
structure NewCustomer where
  name : Text
  email : Text
  phone : Json
  totalSpends : Double
  visits : Int
  lastVisit : Option Timestamp
  deriving Inhabited

/-- What a caller gives for a new order. -/
structure NewOrder where
  customerEmail : Text
  amount : Double
  date : Option Timestamp
  items : List Json
  deriving Inhabited

namespace Customers

/-- The customer that a caller asks for. -/
def draft (args : NewCustomer) : Action σ Customer := do
  let id ← Action.freshId
  let now ← Action.now
  Action.ofExcept <| Customer.validated
    ⟨id, args.name, args.email, args.phone, args.totalSpends, args.visits,
      args.lastVisit.getD now, now⟩

variable [Repository σ]

/-- Refuse a customer whose email is known. -/
def ensureNew (c : Customer) : Action σ Unit := do
  if (← Repository.customerByEmail c.email).isSome then throw (.duplicateCustomer c.email)

/-- The failure of a call, given that of the store. -/
def faultOf : Fault → Fault
  | .duplicateEntity email => .duplicateCustomer email
  | f => f

/-- Note that a customer was stored. -/
def announce (c : Customer) : Action σ Unit :=
  Action.note .info .customers ("Customer created: " ++ c.id.text)

/-- Take a customer in. -/
def create (args : NewCustomer) : Action σ Customer := do
  let c ← draft args
  match ← (unitOfWork do ensureNew c; Repository.saveCustomer c).capture with
  | .error f => throw (faultOf f)
  | .ok c =>
    announce c
    return c

/-- Customers, oldest first. -/
def list (page : Page) : Action σ (List Customer) :=
  unitOfWork (Repository.listCustomers page)

end Customers

namespace Orders

/-- The order that a caller asks for. -/
def draft (args : NewOrder) : Action σ Order := do
  let now ← Action.now
  let id ← Action.freshId
  Action.ofExcept <| Order.validated
    ⟨id, args.customerEmail, args.amount, args.date.getD now, args.items, now⟩

variable [Repository σ]

/-- Apply a stored order that came in at a time. -/
def apply (o : Order) (arrival : Timestamp) : Action σ Unit := do
  if !(← Repository.applyOrder o.customerEmail o.amount arrival) then
    Action.note .info .customers
      ("Order " ++ o.id.text ++ " stored for unknown customer " ++ o.customerEmail)

/-- Take an order in. -/
def ingest (args : NewOrder) : Action σ Order := do
  let arrival ← Action.now
  let o ← draft args
  unitOfWork do
    let o ← Repository.saveOrder o
    apply o arrival
  return o

/-- Orders, most recent first. -/
def list (page : Page) : Action σ (List Order) :=
  unitOfWork (Repository.listOrders page)

end Orders

end Outreach
