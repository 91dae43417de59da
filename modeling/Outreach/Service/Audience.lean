import Outreach.Rule.Compile
import Outreach.Store.Repository

/-!
# Audiences

Counting and loading the customers that satisfy a predicate. Customers are
read afresh every time. A failing store means that the audience cannot be
resolved.

## Main definitions

* `compileAt`: The predicate of rules at a given time or now.
* `Audience.count`, `Audience.resolve`: The audience queries.
* `Audience.preview`: The size of the audience of some rules.
-/

namespace Outreach

variable {σ : Type}

/-- The predicate of rules at a given time, or now. -/
def compileAt (rules : List Rule) (now : Option Timestamp) : Action σ Predicate := do
  let clock ← Action.now
  Action.ofExcept (Rule.compile rules (now.getD clock))

namespace Audience

variable [Repository σ]

/-- An audience query: a failure of the store is noted and becomes one of the
    query. -/
def query {α : Type} (complaint : Text) (body : Action σ α) : Action σ α := do
  match ← (unitOfWork body).capture with
  | .ok a => return a
  | .error f =>
    if f.isRepository then
      Action.note .error .audience (complaint ++ f.message)
      throw (.resolverUnavailable f.message)
    else throw f

/-- How many customers satisfy a predicate. -/
def count (p : Predicate) : Action σ Nat :=
  query "Audience count failed: " (Repository.countMatching p)

/-- The customers that satisfy a predicate. -/
def resolve (p : Predicate) : Action σ (List Customer) := do
  let customers ← query "Audience resolution failed: " (Repository.findMatching p)
  Action.note .debug .audience
    ("Resolved audience of " ++ toString customers.length ++ " customers")
  return customers

/-- The size of the audience of some rules. -/
def preview (rules : List Rule) (now : Option Timestamp) : Action σ Nat := do
  let p ← compileAt rules now
  count p

end Audience

end Outreach
