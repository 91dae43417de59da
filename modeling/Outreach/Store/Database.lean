import Outreach.Sql.Clause
import Outreach.Sql.Statement
import Outreach.Store.Repository
import Outreach.Store.Tables

/-!
# The Store in a Database

A store behind SQL statements. The rows are the entities, with timestamps
kept by what their clocks show and loaded as naive ones. Loading a customer or
an order checks and normalises it again, and loading a campaign reads its
rules again.

A unit of work is a transaction: a roll-back restores the rows from before
it. Whether an email is taken is known only when the row is written.

## Main definitions

* `Database`: The store.
* `Database.begin`, `Database.commit`, `Database.rollback`: Transactions.
* `Database.select`: The customers under the conditions of a predicate.
* The instance of `Repository`.
-/

namespace Outreach

/-- A customer as a row, with the time of its last change. -/
structure CustomerRow where
  customer : Customer
  updatedAt : Timestamp
  deriving Inhabited

/-- The identifier of a row. -/
def CustomerRow.id (r : CustomerRow) : Uuid := r.customer.id

/-- The store in a database. -/
structure Database where
  tables : Tables CustomerRow
  /-- The rows from before the running transaction. -/
  saved : Option (Tables CustomerRow)
  /-- Whether queries of the customers are answered. -/
  reachable : Bool
  /-- Whether storing a batch of records fails, and with which reason. -/
  batchFault : Option Text
  /-- Whether committing fails, and with which reason. -/
  commitFault : Option Text
  deriving Inhabited

/-- Whether a column of whole numbers can hold a number. -/
def fitsColumn (n : Int) : Bool :=
  decide (-wordLimit ≤ n) && decide (n < wordLimit)

/-- Whether a column can hold a value. -/
def SqlValue.fitsColumn : SqlValue → Bool
  | .int n => Outreach.fitsColumn n
  | _ => true

instance : SqlRow Campaign where
  column := fun c name =>
    if name = "id" then .id c.id
    else if name = "status" then .text c.status.text
    else if name = "audience_size" then .int c.audienceSize
    else if name = "sent_count" then .int c.sentCount
    else if name = "failed_count" then .int c.failedCount
    else .null
  assign := fun c name value =>
    match value with
    | .text s =>
      if name = "status" then
        { c with status := (s.string?.bind CampaignStatus.ofText?).getD c.status }
      else c
    | .int n =>
      if name = "sent_count" then { c with sentCount := n }
      else if name = "failed_count" then { c with failedCount := n }
      else c
    | .time t => if name = "updated_at" then { c with updatedAt := t.naive } else c
    | _ => c

instance : SqlRow DeliveryRecord where
  column := fun r name =>
    if name = "id" then .id r.id
    else if name = "status" then .text r.status.text
    else .null
  assign := fun r name value =>
    match value with
    | .text s =>
      if name = "status" then
        { r with status := (s.string?.bind DeliveryStatus.ofText?).getD r.status }
      else r
    | .time t => if name = "updated_at" then { r with updatedAt := t.naive } else r
    | _ => r

/-- The value of a phone number in its column, which holds texts. -/
def phoneValue : Json → SqlValue
  | .text t => .text t
  | .int n => .text (toString n)
  | .bool b => .text (if b then "1" else "0")
  | .double x => if x.isNaN then .null else .text (SqlValue.doubleText x)
  | _ => .null

instance : SqlRow CustomerRow where
  column := fun r name =>
    let c := r.customer
    if name = "id" then .id c.id
    else if name = "name" then .text c.name
    else if name = "email" then .text c.email
    else if name = "phone" then phoneValue c.phone
    else if name = "total_spends" then .ofDouble c.totalSpends
    else if name = "visits" then .int c.visits
    else if name = "last_visit" then .time c.lastVisit
    else if name = "created_at" then .time c.createdAt
    else if name = "updated_at" then .time r.updatedAt
    else .null
  assign := fun r name value =>
    let c := r.customer
    match value with
    | .double x =>
      if name = "total_spends" then { r with customer := { c with totalSpends := x } } else r
    | .int n => if name = "visits" then { r with customer := { c with visits := n } } else r
    | .time t =>
      if name = "last_visit" then { r with customer := { c with lastVisit := t.naive } }
      else if name = "updated_at" then { r with updatedAt := t.naive }
      else r
    | _ => r

namespace Database

/-- An empty store. -/
def empty : Database := ⟨Tables.empty, none, true, none, none⟩

/-- Change the rows. -/
def withTables (d : Database) (f : Tables CustomerRow → Tables CustomerRow) : Database :=
  { d with tables := f d.tables }

/-- Begin a transaction. -/
def begin (d : Database) : Database :=
  { d with saved := some d.tables }

/-- Restore the rows from before the transaction. -/
def restore (d : Database) : Database :=
  { d with tables := d.saved.getD d.tables, saved := none }

/-- The phone number that a column gives back. -/
def storedPhone (phone : Json) : Json :=
  match phoneValue phone with
  | .text t => .text t
  | _ => .null

/-- The double that a column gives back: zero has no sign. -/
def storedDouble (x : Double) : Double :=
  if x.eq Double.zero then Double.zero else x

/-- A customer as a row that is written now. -/
def customerRow (c : Customer) (now : Timestamp) : CustomerRow where
  customer := { c with
    phone := storedPhone c.phone
    totalSpends := storedDouble c.totalSpends
    lastVisit := c.lastVisit.naive
    createdAt := c.createdAt.naive }
  updatedAt := now.naive

/-- A campaign as a row. -/
def campaignRow (c : Campaign) : Campaign :=
  { c with createdAt := c.createdAt.naive, updatedAt := c.updatedAt.naive }

/-- A record as a row. -/
def recordRow (r : DeliveryRecord) : DeliveryRecord :=
  { r with createdAt := r.createdAt.naive, updatedAt := r.updatedAt.naive }

/-- An order as a row. -/
def orderRow (o : Order) : Order :=
  { o with date := o.date.naive, createdAt := o.createdAt.naive }

/-- The failure of a statement with a whole number that no column can hold. -/
def tooLarge : Fault :=
  .foreign "OverflowError" "Python int too large to convert to SQLite INTEGER"

/-- Texts can only be stored if they have bytes. -/
def ensureEncodable (t : Text) : Except Fault Unit :=
  match t.encode with
  | .ok _ => .ok ()
  | .error place => .error (.notEncodable place)

/-- A phone number can only be stored if it is a text or a plain value. -/
def ensurePhone : Json → Except Fault Unit
  | .text t => ensureEncodable t
  | .int n => if fitsColumn n then .ok () else .error tooLarge
  | .list _ | .object _ => .error (.foreign "ProgrammingError" "")
  | _ => .ok ()

/-- Whether the values of a customer can be written, in the order of the
    columns. -/
def ensureWritable (c : Customer) : Except Fault Unit := do
  ensureEncodable c.name
  ensureEncodable c.email
  ensurePhone c.phone
  if !fitsColumn c.visits then throw tooLarge

/-- The rows of a page. A negative limit is none, and a negative offset passes
    nothing over. -/
def paged {α : Type} (page : Page) (rows : List α) : Except Fault (List α) :=
  if !(fitsColumn page.limit && fitsColumn page.offset) then .error tooLarge
  else
    let rest := rows.drop page.offset.toNat
    .ok (if page.limit < 0 then rest else rest.take page.limit.toNat)

/-- A query of the customers, which fails while the store cannot be
    reached. -/
def customerRows (d : Database) : Except Fault (List CustomerRow) :=
  if d.reachable then .ok d.tables.customers else .error (.foreign "OSError" "connection refused")

/-- The customers under the conditions of a predicate. -/
def select (d : Database) (complaint : Text) (p : Predicate) (now : Timestamp) :
    Except Fault (List CustomerRow) := do
  let conditions := (← p.clause).conditions
  if !d.reachable then throw (.storeUnavailable (complaint ++ "connection refused"))
  -- The parameters are bound before any row is looked at.
  if (conditions.flatMap SqlCondition.parameters).any fun p => !p.2.fitsColumn then
    throw tooLarge
  return d.tables.customers.filter fun c =>
    conditions.all fun k => k.holds (SqlRow.column c) now

/-- The customer that a row is loaded as. -/
def loaded (r : CustomerRow) : Except Fault Customer :=
  r.customer.validated

/-- The campaign that a row is loaded as, its rules read again from their
    objects. -/
def loadedCampaign (row : Campaign) : Except Fault Campaign := do
  let rules ← Rule.listOfJson (Rule.listToJson row.rules)
  return { row with rules := rules }

/-- Rows by creation time and identifier. -/
def rowsByTime (rows : List CustomerRow) : List CustomerRow :=
  inTimeOrder (·.customer.createdAt.wall) CustomerRow.id rows

/-- How many customers satisfy a predicate. -/
def countMatching (d : Database) (p : Predicate) (now : Timestamp) : Except Fault Nat :=
  return (← d.select "Customer count failed: " p now).length

/-- The customers that satisfy a predicate, by creation time and
    identifier. -/
def findMatching (d : Database) (p : Predicate) (now : Timestamp) :
    Except Fault (List Customer) := do
  let rows ← d.select "Customer query failed: " p now
  (rowsByTime rows).mapM loaded

/-- Write a customer: a new row, or new values of the row with the identifier,
    whose creation time stays. A row violates a constraint when its email is
    taken or its spend is no number. -/
def saveCustomer (d : Database) (c : Customer) (now : Timestamp) : Except Fault Database := do
  ensureWritable c
  if c.totalSpends.isNaN ||
      d.tables.customers.any fun r => r.customer.email = c.email && r.id != c.id then
    throw (.duplicateEntity c.email)
  -- The creation time is not among the columns that an update sets.
  let row := customerRow c now
  let row :=
    match lookUp CustomerRow.id c.id d.tables.customers with
    | some old =>
      { row with customer := { row.customer with createdAt := old.customer.createdAt } }
    | none => row
  return d.withTables fun t => { t with customers := upsert CustomerRow.id row t.customers }

/-- The customer with an email. -/
def customerByEmail (d : Database) (email : Text) : Except Fault (Option Customer) := do
  let rows ← d.customerRows
  -- A connection is needed before the parameter is bound, so being reachable comes first.
  let email := normalEmail email
  ensureEncodable email
  (rows.find? fun r => r.customer.email = email).mapM loaded

/-- Apply an order to the customer with an email. -/
def applyOrder (d : Database) (email : Text) (amount : Double) (at' now : Timestamp) :
    Except Fault (Database × Bool) := do
  ensureEncodable (normalEmail email)
  let update := applyOrderUpdate email amount at'
  -- A sum that is no number is stored as null, which the column does not allow.
  if d.tables.customers.any fun c => update.leavesNull now c then throw .integrity
  let (rows, changed) := update.run now d.tables.customers
  return (d.withTables fun t => { t with customers := rows }, !changed.isEmpty)

/-- Write a campaign: a new row, or name, message and rules of the row with the
    identifier. -/
def saveCampaign (d : Database) (c : Campaign) (now : Timestamp) : Except Fault Database := do
  ensureEncodable c.name
  ensureEncodable c.message
  let row ←
    match lookUp Campaign.id c.id d.tables.campaigns with
    | some old =>
      pure { old with
        name := c.name, message := c.message, rules := c.rules, updatedAt := now.naive }
    | none =>
      if [c.audienceSize, c.sentCount, c.failedCount].all fitsColumn then pure (campaignRow c)
      else throw tooLarge
  return d.withTables fun t => { t with campaigns := upsert Campaign.id row t.campaigns }

/-- Run a statement on the campaigns. -/
def updateCampaigns (d : Database) (u : SqlUpdate) (now : Timestamp) :
    Database × List Campaign :=
  let (rows, changed) := u.run now d.tables.campaigns
  (d.withTables fun t => { t with campaigns := rows }, changed)

/-- Start a pending campaign. -/
def markSending (d : Database) (id : Uuid) (now : Timestamp) :
    Except Fault (Database × Option Campaign) :=
  let (after, changed) := d.updateCampaigns (markSendingUpdate id) now
  match changed with
  | c :: _ => return (after, some (← loadedCampaign c))
  | [] =>
    -- No row was changed: either the campaign is not pending or there is none.
    match lookUp Campaign.id id d.tables.campaigns with
    | some _ => .ok (after, none)
    | none => .error (.entityNotFound .campaign id)

/-- Count an outcome for a campaign. -/
def recordOutcome (d : Database) (id : Uuid) (outcome : DeliveryStatus) (now : Timestamp) :
    Except Fault (Database × CounterUpdate) := do
  let update ← recordOutcomeUpdate id outcome
  let (after, changed) := d.updateCampaigns update now
  match changed with
  | c :: _ => return (after, ⟨true, c.status = .completed⟩)
  | [] => return (after, ⟨false, false⟩)

/-- Complete a campaign whose audience is exhausted. -/
def completeIfExhausted (d : Database) (id : Uuid) (now : Timestamp) : Database × Bool :=
  let (after, changed) := d.updateCampaigns (completeUpdate id) now
  (after, !changed.isEmpty)

/-- Whether the texts of a record can be written. -/
def ensureRecord (r : DeliveryRecord) : Except Fault Unit := do
  ensureEncodable r.customerEmail
  ensureEncodable r.message

/-- Write a record: a new row, or state and message of the row with the
    identifier, if they differ. -/
def saveRecord (d : Database) (r : DeliveryRecord) (now : Timestamp) : Except Fault Database := do
  let row ←
    match lookUp DeliveryRecord.id r.id d.tables.records with
    | some old => do
      ensureEncodable r.message
      -- A row without changes is not written, so its time of change stays.
      if old.status = r.status ∧ old.message = r.message then pure old
      else pure { old with status := r.status, message := r.message, updatedAt := now.naive }
    | none => do
      ensureRecord r
      pure (recordRow r)
  return d.withTables fun t => { t with records := upsert DeliveryRecord.id row t.records }

/-- Add rows whose identifiers must be new. -/
def insertNew {α : Type} (key : α → Uuid) : List α → List α → Except Fault (List α)
  | rows, [] => .ok rows
  | rows, a :: rest =>
    if (lookUp key (key a) rows).isSome then .error .integrity
    else insertNew key (rows ++ [a]) rest

/-- Write a batch of records. -/
def saveRecords (d : Database) (rs : List DeliveryRecord) : Except Fault Database :=
  match d.batchFault with
  | some reason => .error (.storeUnavailable reason)
  | none => do
    -- All rows are checked before the first one is written.
    let _ ← rs.mapM ensureRecord
    let rows ← insertNew DeliveryRecord.id d.tables.records (rs.map recordRow)
    return d.withTables fun t => { t with records := rows }

/-- Settle a record. -/
def settleRecord (d : Database) (id : Uuid) (outcome : DeliveryStatus) (now : Timestamp) :
    Except Fault (Database × Bool) :=
  if !outcome.isOutcome then .error (.notAnOutcome outcome.qualified)
  else
    let (rows, changed) := (settleUpdate id outcome).run now d.tables.records
    let after := d.withTables fun t => { t with records := rows }
    if !changed.isEmpty then .ok (after, true)
    else
      -- No row was changed: either the record is settled already or there is none.
      match lookUp DeliveryRecord.id id d.tables.records with
      | some _ => .ok (after, false)
      | none => .error (.entityNotFound .deliveryRecord id)

/-- The records of a campaign, in one state if one is given. -/
def recordsOf (d : Database) (id : Uuid) (status : Option DeliveryStatus) :
    List DeliveryRecord :=
  inTimeOrder (·.createdAt.wall) DeliveryRecord.id <|
    d.tables.records.filter fun r => r.campaignId = id && status.all fun s => r.status = s

/-- How many records were created at or after a time. -/
def countSince (d : Database) (since : Timestamp) : Nat :=
  d.tables.records.countP fun r => decide (since.wall ≤ r.createdAt.wall)

/-- Write an order. -/
def saveOrder (d : Database) (o : Order) : Except Fault Database := do
  ensureEncodable o.customerEmail
  if o.amount.isNaN then throw .integrity
  let rows ← insertNew Order.id d.tables.orders [orderRow o]
  return d.withTables fun t => { t with orders := rows }

/-- Ask the store. -/
def ask {α : Type} (f : Database → Timestamp → Except Fault α) : Action Database α := do
  let w ← get
  Action.ofExcept (f w.store w.time)

/-- Change the store, unless that fails. -/
def change {α : Type} (f : Database → Timestamp → Except Fault (Database × α)) :
    Action Database α := do
  let w ← get
  let (store, a) ← Action.ofExcept (f w.store w.time)
  set { w with store := store }
  return a

/-- Change the store. -/
def put (f : Database → Database) : Action Database Unit :=
  modify fun w => { w with store := f w.store }

/-- Give the transaction up. -/
def abandon : Action Database Unit := do
  put restore
  Action.note .debug .transactions "Transaction rolled back"

/-- Make the changes of the transaction last. -/
def commit : Action Database Unit := do
  match (← get).store.commitFault with
  | none =>
    put fun d => { d with saved := none }
    Action.note .debug .transactions "Transaction committed"
  | some reason =>
    Action.note .error .transactions "Commit failed, rolling back"
    abandon
    throw (.foreign "RuntimeError" reason)

instance : Repository Database where
  begin := put begin
  commit := commit
  rollback := fun f => do
    abandon
    Action.note .debug .transactions ("Transaction rolled back due to: " ++ f.kind)
  saveCustomer := fun c => change fun d now => return (← d.saveCustomer c now, c)
  customerById := fun id => ask fun d _ =>
    (lookUp CustomerRow.id id d.tables.customers).mapM loaded
  customerByEmail := fun email => ask fun d _ => d.customerByEmail email
  countMatching := fun p => ask fun d now => d.countMatching p now
  findMatching := fun p => ask fun d now => d.findMatching p now
  applyOrder := fun email amount at' => change fun d now => d.applyOrder email amount at' now
  listCustomers := fun page => ask fun d _ => do
    let rows ← d.customerRows
    (← paged page (rowsByTime rows)).mapM loaded
  countCustomers := ask fun d _ => return (← d.customerRows).length
  saveCampaign := fun c => do
    change fun d now => return (← d.saveCampaign c now, ())
    Action.note .debug .campaignRows ("Saved campaign " ++ c.id.text)
    return c
  campaignById := fun id => ask fun d _ =>
    (lookUp Campaign.id id d.tables.campaigns).mapM loadedCampaign
  listCampaigns := fun page => ask fun d _ => do
    (← paged page (newestFirst (·.createdAt.wall) d.tables.campaigns)).mapM loadedCampaign
  countCampaigns := ask fun d _ => .ok d.tables.campaigns.length
  markSending := fun id => change fun d now => d.markSending id now
  releaseToPending := fun id => change fun d now =>
    .ok ((d.updateCampaigns (releaseUpdate id) now).1, ())
  recordOutcome := fun id outcome => change fun d now => d.recordOutcome id outcome now
  completeIfExhausted := fun id => change fun d now => .ok (d.completeIfExhausted id now)
  saveRecord := fun r => change fun d now => return (← d.saveRecord r now, r)
  saveRecords := fun rs => do
    change fun d _ => return (← d.saveRecords rs, ())
    Action.note .info .deliveryRows
      ("Bulk saved " ++ toString rs.length ++ " delivery records")
    return rs
  recordById := fun id => ask fun d _ => .ok (lookUp DeliveryRecord.id id d.tables.records)
  settleRecord := fun id outcome => change fun d now => d.settleRecord id outcome now
  recordsOf := fun id page status => ask fun d _ => paged page (d.recordsOf id status)
  countSince := fun since => ask fun d _ => .ok (d.countSince since)
  saveOrder := fun o => change fun d _ => return (← d.saveOrder o, o)
  orderById := fun id => ask fun d _ => (lookUp Order.id id d.tables.orders).mapM Order.validated
  listOrders := fun page => ask fun d _ => do
    (← paged page (newestFirst (·.date.wall) d.tables.orders)).mapM Order.validated
  countOrders := ask fun d _ => .ok d.tables.orders.length

end Database

end Outreach
