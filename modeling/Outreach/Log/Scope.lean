import Outreach.Fault
import Outreach.Log.Line

/-!
# Contexts of Log Fields

A context puts fields on the records that are created while it is open. All tasks share the
contexts, but each task has fields in force of its own: entering a context in a task puts its
fields over those in force there, and the context keeps a token of what was in force before.
Leaving it gives the token back, which restores just that, whether it is left normally or
because of a fault. A task starts with the fields in force of the task that creates it.

Nothing puts fields on records before the first context is entered. A context has no field
that is named like itself.

## Main definitions

* `Log.Token`, `Log.Context`: A context and what it keeps while it is open.
* `Log.Contexts`: The contexts and the fields in force in each task.
* `Log.Contexts.enter`, `Log.Contexts.leave`, `Log.Contexts.spawn`: What tasks do with them.
* `Log.Contexts.carried`: The fields that records carry.
* `Log.Scope`: The contexts that a single task enters one inside the other.
-/

namespace Outreach

namespace Log

/-- What was in force in a task before a context was entered there. -/
structure Token where
  task : Nat
  before : Named Value
  deriving Inhabited

/-- A context, with its token while it is open. -/
structure Context where
  fields : Named Value
  token : Option Token
  deriving Inhabited

namespace Context

/-- The name that no field of a context can have: it stands for the context
    itself. -/
def ownName : String := "self"

/-- A context with some fields. -/
def create (fields : Named Value) : Except Fault Context :=
  if (Named.value? fields ownName).isSome then .error .wrongType else .ok ⟨fields, none⟩

end Context

/-- The contexts of all tasks. -/
structure Contexts where
  /-- Whether records are given the fields in force. -/
  installed : Bool
  /-- The fields in force in each task. -/
  inForce : Nat → Named Value
  /-- The contexts by number. -/
  contexts : Nat → Context

namespace Contexts

/-- A function with one value set. -/
def set {α : Type} (f : Nat → α) (n : Nat) (a : α) : Nat → α :=
  fun m => if m = n then a else f m

/-- A context is entered in a task. -/
def enter (s : Contexts) (task context : Nat) : Contexts :=
  let c := s.contexts context
  let before := s.inForce task
  { installed := true
    inForce := set s.inForce task (Named.merge before c.fields)
    contexts := set s.contexts context { c with token := some ⟨task, before⟩ } }

/-- A context is left in a task, whatever the reason. A token can only be given
    back in the task that it was taken in. -/
def leave (s : Contexts) (task context : Nat) : Except Fault Contexts :=
  let c := s.contexts context
  match c.token with
  | none => .ok s
  | some token =>
    if token.task = task then
      .ok { s with
        inForce := set s.inForce task token.before
        contexts := set s.contexts context { c with token := none } }
    else .error (.foreign "ValueError" "was created in a different Context")

/-- A task creates another one. -/
def spawn (s : Contexts) (task child : Nat) : Contexts :=
  { s with inForce := set s.inForce child (s.inForce task) }

/-- The fields that are put on a record created in a task. -/
def carried (s : Contexts) (task : Nat) : Named Value :=
  if s.installed then s.inForce task else []

/-- No context is open and no fields are in force. -/
def start (contexts : Nat → Context) : Contexts := ⟨false, fun _ => [], contexts⟩

end Contexts

/-- The contexts of a program with a single task that enters them one inside
    the other. -/
structure Scope where
  contexts : Contexts
  /-- How many contexts there are. -/
  count : Nat
  /-- The open contexts, innermost first. -/
  opened : List Nat

namespace Scope

/-- The single task. -/
def task : Nat := 0

/-- No context has been entered. -/
def empty : Scope := ⟨.start fun _ => default, 0, []⟩

/-- The fields that records carry. -/
def current (s : Scope) : Named Value := s.contexts.carried task

/-- A new context is entered. -/
def enter (s : Scope) (fields : Fields) : Except Fault Scope := do
  let c ← Context.create (fields.map fun f => (f.1, f.2.value))
  let contexts := { s.contexts with contexts := Contexts.set s.contexts.contexts s.count c }
  return ⟨contexts.enter task s.count, s.count + 1, s.count :: s.opened⟩

/-- The innermost context is left. -/
def leave (s : Scope) : Scope :=
  match s.opened with
  | [] => s
  | context :: rest =>
    match s.contexts.leave task context with
    | .ok contexts => ⟨contexts, s.count, rest⟩
    | .error _ => s

end Scope

end Log

end Outreach
