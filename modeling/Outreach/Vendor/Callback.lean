import Outreach.Url.Basic
import Outreach.World

/-!
# Receipts by Callback

A vendor that runs elsewhere reports receipts by posting them to a web
address. An answer that the record is unknown is noted and not an error; any
other refusal is, and so is a transport that fails. An address that is
relative can be posted to, but its answer cannot be dealt with.

## Main definitions

* `Callback.Reply`: The answer of the server.
* `Callback.body`: A receipt as it is posted.
* `Callback.deliver`: A receipt reported by callback.
-/

namespace Outreach

namespace Callback

/-- The answer of a server. -/
structure Reply where
  status : Nat
  body : Text
  deriving DecidableEq, Inhabited

/-- A receipt as it is posted. -/
def body (receipt : Receipt) : Json :=
  .record [("recordId", .string receipt.recordId.text), ("status", .string receipt.outcome.text)]

/-- What the answer of a server means for a receipt. -/
def judge {σ : Type} (receipt : Receipt) (reply : Reply) : Action σ Unit := do
  if reply.status = 404 then
    Action.note .warning .sinks
      ("Receipt callback rejected unknown record " ++ receipt.recordId.text)
  else if 400 ≤ reply.status then throw (.callbackRefused reply.status reply.body)

/-- The address below which a relative address stands. -/
def root : Url := ⟨"", "", "", none, "", none, none⟩

/-- Report a receipt to a web address. -/
def deliver {σ : Type} (post : Url → Json → Action σ (Except Text Reply)) (address : Text)
    (receipt : Receipt) : Action σ Unit := do
  let url := root.below (← Action.ofExcept (Url.ofText address))
  match ← post url (body receipt) with
  | .error reason => throw (.callbackFailed reason)
  | .ok reply =>
    if url.isRelative then
      throw (.foreign "ValueError" ("unknown url type: " ++ Text.quoted (url.text : Text)))
    judge receipt reply

end Callback

end Outreach
