import Outreach.Log.Line
import Outreach.Number.Shortest
import Outreach.Settings.Address
import Outreach.Settings.Basic

/-!
# Putting the Service Together

Which store and which sink for receipts the settings mean, and what starting
and closing the service leaves in the log. Starting connects to the database,
unless it is connected, and closing disconnects it.

## Main definitions

* `Assembly`: The service as it is put together.
* `Assembly.create`: The service that settings mean.
* `Assembly.start`, `Assembly.close`, `Assembly.isReady`: Its life.
-/

namespace Outreach

/-- The service as it is put together. -/
structure Assembly where
  settings : Settings
  /-- The store is kept in memory; otherwise it is a database. -/
  inMemory : Bool
  /-- The store in memory answers. -/
  available : Bool
  /-- The database is connected. -/
  connected : Bool
  /-- The name of a sender that was given; otherwise the vendor is
      simulated. -/
  givenSender : Option Text
  /-- The log, in order. -/
  log : List Log.Line

namespace Assembly

/-- Write a line to the log. -/
def note (a : Assembly) (level : Log.Level) (channel : Log.Channel) (message : Text) :
    Assembly :=
  { a with log := a.log ++ [⟨level, channel, message, []⟩] }

/-- A range as the log shows it. -/
def rangeText (range : Double × Double) : String :=
  "(" ++ range.1.text ++ ", " ++ range.2.text ++ ")"

/-- The address that receipts are posted to, if they are. -/
def callback? (s : Settings) : Option Text :=
  match s.vendor.callbackUrl with
  | some url => if url.isEmpty then none else some url
  | none => none

/-- The name of the sender. -/
def senderName (a : Assembly) : Text :=
  a.givenSender.getD "simulated"

/-- Note how the vendor is set up, if it is simulated. -/
def noteVendor (a : Assembly) : Assembly :=
  if a.givenSender.isNone then
    let v := a.settings.vendor
    a.note .info .vendor
      ("Simulated vendor initialized (success_rate=" ++ v.successRate.text ++
        ", dispatch_jitter=" ++ rangeText v.dispatch ++
        ", response_jitter=" ++ rangeText v.response ++ ")")
  else a

/-- Note where receipts are posted to, if they are. -/
def noteCallback (a : Assembly) : Assembly :=
  match callback? a.settings with
  | some url => a.note .info .assembly ("Vendor receipts will be posted to " ++ url)
  | none => a

/-- The service that settings mean. A store of its own makes it keep its store
    in memory. -/
def create (settings : Settings) (ownStore : Bool) (sender : Option Text) : Assembly :=
  let inMemory := ownStore || settings.database.backend = ("memory" : Text)
  (noteVendor ⟨settings, inMemory, true, false, sender, []⟩).noteCallback

/-- Connect to the database, which must have an address that can be connected
    to. -/
def connect (a : Assembly) : Except Fault Assembly := do
  if a.inMemory || a.connected then return a
  let address ← Address.ofText a.settings.database.url
  address.check
  let begun := a.note .info .database ("Connecting to database: " ++ a.settings.database.shownUrl)
  return { begun with connected := true }.note .info .database "Database connected"

/-- Start the service. -/
def start (a : Assembly) : Except Fault Assembly := do
  let connected ← a.connect
  return connected.note .info .assembly
    ("Container started (backend=" ++ a.settings.database.backend ++ ", vendor=" ++
      a.senderName ++ ")")

/-- Disconnect from the database. -/
def disconnect (a : Assembly) : Assembly :=
  if a.connected then
    { a with connected := false }.note .info .database "Database disconnected"
  else a

/-- Close the vendor. -/
def closeVendor (a : Assembly) : Assembly :=
  if a.givenSender.isNone then
    a.note .info .vendor "Simulated vendor closed (0 sends cancelled)"
  else a

/-- Close the service. -/
def close (a : Assembly) : Assembly :=
  a.closeVendor.disconnect.note .info .assembly "Container closed"

/-- Whether the store answers. A database that is not connected leaves a
    warning. -/
def isReady (a : Assembly) : Bool × Assembly :=
  if a.inMemory then (a.available, a)
  else if a.connected then (true, a)
  else (false, a.note .warning .assembly "Readiness check failed: Database not connected")

/-- What is ready, as an object. -/
def checks (ready : Bool) : Json :=
  .record [("database", .string (if ready then "ok" else "unavailable"))]

end Assembly

end Outreach
