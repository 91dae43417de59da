import Outreach.Fault
import Outreach.Number.Arithmetic
import Outreach.Text.Blank
import Outreach.Text.Lowercase
import Outreach.Time.Iso

/-!
# Customers and Orders

A customer has a name, an email that identifies them, and the three values
that audience rules look at: what they spent, how often they bought and when
they last did. An order adds to them.

Names are kept without blanks around them, emails in lower case too, and
timestamps in universal time.

## Main definitions

* `normalEmail`: The form in which an email is kept.
* `Customer`: A customer.
* `Customer.validated`: A customer with checked and normalised fields.
* `Customer.recordOrder`: A customer after an order.
* `Order`: An order.
* `Order.validated`: An order with checked and normalised fields.
-/

namespace Outreach

/-- The form in which an email is kept. -/
def normalEmail (email : Text) : Text :=
  email.strip.lowercase

/-- A timestamp in universal time. -/
def inUtc (t : Timestamp) : Except Fault Timestamp :=
  match t.toUtc? with
  | some u => .ok u
  | none => .error .dateRange

/-- A customer. -/
structure Customer where
  id : Uuid
  name : Text
  email : Text
  /-- The phone number in whatever form it was given; null if there is none. -/
  phone : Json
  totalSpends : Double
  visits : Int
  lastVisit : Timestamp
  createdAt : Timestamp
  deriving Inhabited

namespace Customer

/-- A customer with checked and normalised fields. The checks come in the order
    name, email, spend, visits, timestamps. -/
def validated (c : Customer) : Except Fault Customer := do
  if c.name.isBlankText then throw .emptyCustomerName
  if !c.email.points.contains (.char '@') then throw (.invalidEmail c.email.quoted)
  if c.totalSpends.lt Double.zero then throw .negativeSpends
  if c.visits < 0 then throw .negativeVisits
  let lastVisit ← inUtc c.lastVisit
  let createdAt ← inUtc c.createdAt
  return { c with
    name := c.name.strip
    email := normalEmail c.email
    lastVisit := lastVisit
    createdAt := createdAt }

/-- A customer after an order: spend and visits grow, and the last visit is the
    given time. The numbers are changed first, so they stay changed when the
    time has no form in universal time. -/
def recordOrder (c : Customer) (amount : Double) (at' : Timestamp) : Customer × Except Fault Unit :=
  let counted := { c with totalSpends := c.totalSpends.add amount, visits := c.visits + 1 }
  match inUtc at' with
  | .ok t => ({ counted with lastVisit := t }, .ok ())
  | .error e => (counted, .error e)

/-- A customer as a JSON object. -/
def toJson (c : Customer) : Json :=
  .record [("id", .string c.id.text), ("name", .text c.name), ("email", .text c.email),
    ("phone", c.phone), ("total_spends", .double c.totalSpends),
    ("visits", .int c.visits), ("last_visit", .string c.lastVisit.iso),
    ("created_at", .string c.createdAt.iso)]

end Customer

/-- A purchase, tied to a customer by email. -/
structure Order where
  id : Uuid
  customerEmail : Text
  amount : Double
  date : Timestamp
  items : List Json
  createdAt : Timestamp
  deriving Inhabited

namespace Order

/-- An order with checked and normalised fields. -/
def validated (o : Order) : Except Fault Order := do
  if o.amount.le Double.zero then throw .amountNotPositive
  let date ← inUtc o.date
  return { o with customerEmail := normalEmail o.customerEmail, date := date }

/-- An order as a JSON object. -/
def toJson (o : Order) : Json :=
  .record [("id", .string o.id.text), ("customer_email", .text o.customerEmail),
    ("amount", .double o.amount), ("date", .string o.date.iso),
    ("items", .list o.items), ("created_at", .string o.createdAt.iso)]

end Order

end Outreach
