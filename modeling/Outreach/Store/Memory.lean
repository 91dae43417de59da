import Outreach.Audience.Match
import Outreach.Store.Repository
import Outreach.Store.Tables

/-!
# The Store in Memory

A store that keeps its tables in memory. Every change takes effect at once:
a unit of work has nothing to commit and nothing to give up. Campaigns and
records are changed by their own operations.

## Main definitions

* `Memory`: The store.
* `Memory.countMatching`, `Memory.findMatching`: The audience queries.
* `Memory.applyOrder`: An order applied to its customer.
* The instance of `Repository`.
-/

namespace Outreach

/-- The store in memory. -/
structure Memory where
  tables : Tables Customer
  /-- Whether audience queries are answered. -/
  available : Bool
  /-- Whether storing a batch of records fails, and with which reason. -/
  batchFault : Option Text
  deriving Inhabited

namespace Memory

/-- An empty store. -/
def empty : Memory := ⟨Tables.empty, true, none⟩

/-- Change the tables. -/
def withTables (m : Memory) (f : Tables Customer → Tables Customer) : Memory :=
  { m with tables := f m.tables }

/-- Audience queries fail while the store is not available. -/
def ensureAvailable (m : Memory) : Except Fault Unit :=
  if m.available then .ok ()
  else .error (.storeUnavailable "In-memory customer store is unavailable")

/-- The stored customers that satisfy a predicate, in the order of storage. -/
def matching (m : Memory) (p : Predicate) : Except Fault (List Customer) :=
  m.tables.customers.filterM fun c => p.matches c

/-- How many customers satisfy a predicate. -/
def countMatching (m : Memory) (p : Predicate) : Except Fault Nat := do
  m.ensureAvailable
  return (← m.matching p).length

/-- The customers that satisfy a predicate, by creation time and
    identifier. -/
def findMatching (m : Memory) (p : Predicate) : Except Fault (List Customer) := do
  m.ensureAvailable
  return inTimeOrder (·.createdAt.instant) Customer.id (← m.matching p)

/-- Store a customer, unless another one has its email. -/
def saveCustomer (m : Memory) (c : Customer) : Except Fault Memory :=
  if m.tables.customers.any fun d => d.email = c.email && d.id != c.id then
    .error (.duplicateEntity c.email)
  else .ok (m.withTables fun t => { t with customers := upsert Customer.id c t.customers })

/-- The customer with an email. -/
def customerByEmail (m : Memory) (email : Text) : Option Customer :=
  m.tables.customers.find? fun c => c.email = normalEmail email

/-- An order applied to the first of some customers that has an email: the
    customers, whether there is one, and whether its time has a form in
    universal time. -/
def applyTo (email : Text) (amount : Double) (at' : Timestamp) :
    List Customer → List Customer × Except Fault Bool
  | [] => ([], .ok false)
  | c :: rest =>
    if c.email = email then
      -- The customer is changed even if the time has no form in universal time.
      let (changed, outcome) := c.recordOrder amount at'
      (changed :: rest, outcome.map fun _ => true)
    else
      let (others, outcome) := applyTo email amount at' rest
      (c :: others, outcome)

/-- An order applied to the customer with an email. -/
def applyOrder (m : Memory) (email : Text) (amount : Double) (at' : Timestamp) :
    Memory × Except Fault Bool :=
  let (customers, outcome) := applyTo (normalEmail email) amount at' m.tables.customers
  (m.withTables fun t => { t with customers := customers }, outcome)

/-- The campaign with an identifier, which must exist. -/
def campaign (m : Memory) (id : Uuid) : Except Fault Campaign :=
  match lookUp Campaign.id id m.tables.campaigns with
  | some c => .ok c
  | none => .error (.entityNotFound .campaign id)

/-- Store a campaign. -/
def putCampaign (m : Memory) (c : Campaign) : Memory :=
  m.withTables fun t => { t with campaigns := upsert Campaign.id c t.campaigns }

/-- Store a record. -/
def putRecord (m : Memory) (r : DeliveryRecord) : Memory :=
  m.withTables fun t => { t with records := upsert DeliveryRecord.id r t.records }

/-- Start a pending campaign. -/
def markSending (m : Memory) (id : Uuid) (now : Timestamp) :
    Except Fault (Memory × Option Campaign) := do
  let c ← m.campaign id
  -- Losing the claim is no failure of the store.
  if c.status ≠ .pending then return (m, none)
  let started ← c.startSending now
  return (m.putCampaign started, some started)

/-- Put a campaign back that is being sent and has no outcomes. -/
def releaseToPending (m : Memory) (id : Uuid) (now : Timestamp) : Except Fault Memory := do
  let c ← m.campaign id
  -- A campaign with outcomes has sent something and must not start over.
  if c.status = .sending ∧ c.outcomeCount = 0 then
    let released ← c.release now
    return m.putCampaign released
  return m

/-- Count an outcome for a campaign. -/
def recordOutcome (m : Memory) (id : Uuid) (outcome : DeliveryStatus) (now : Timestamp) :
    Except Fault (Memory × CounterUpdate) := do
  let c ← m.campaign id
  let (after, update) ← c.recordOutcome outcome now
  return (m.putCampaign after, update)

/-- Complete a campaign whose audience is exhausted. -/
def completeIfExhausted (m : Memory) (id : Uuid) (now : Timestamp) :
    Except Fault (Memory × Bool) := do
  let c ← m.campaign id
  let (after, completed) := c.completeIfExhausted now
  return (m.putCampaign after, completed)

/-- Store a batch of records. -/
def saveRecords (m : Memory) (rs : List DeliveryRecord) : Except Fault Memory :=
  match m.batchFault with
  | some reason => .error (.storeUnavailable reason)
  | none => .ok (rs.foldl putRecord m)

/-- Settle a record. -/
def settleRecord (m : Memory) (id : Uuid) (outcome : DeliveryStatus) (now : Timestamp) :
    Except Fault (Memory × Bool) :=
  match lookUp DeliveryRecord.id id m.tables.records with
  | none => .error (.entityNotFound .deliveryRecord id)
  | some r => do
    let (after, settled) ← r.settle outcome now
    return (m.putRecord after, settled)

/-- The records of a campaign, in one state if one is given. -/
def recordsOf (m : Memory) (id : Uuid) (status : Option DeliveryStatus) :
    Except Fault (List DeliveryRecord) :=
  let found := m.tables.records.filter fun r =>
    r.campaignId = id && status.all fun s => r.status = s
  if comparable DeliveryRecord.createdAt found then
    .ok (inTimeOrder (·.createdAt.instant) DeliveryRecord.id found)
  else .error .wrongType

/-- How many records were created at or after a time. -/
def countSince (m : Memory) (since : Timestamp) : Except Fault Nat :=
  if m.tables.records.all fun r => r.createdAt.isAware = since.isAware then
    .ok (m.tables.records.countP fun r => decide (since.instant ≤ r.createdAt.instant))
  else .error .wrongType

/-- All campaigns, newest first. -/
def campaignsByTime (m : Memory) : Except Fault (List Campaign) :=
  if comparable Campaign.createdAt m.tables.campaigns then
    .ok (newestFirst (·.createdAt.instant) m.tables.campaigns)
  else .error .wrongType

/-- All customers by creation time and identifier. -/
def customersByTime (m : Memory) : List Customer :=
  inTimeOrder (·.createdAt.instant) Customer.id m.tables.customers

/-- All orders by date, newest first. -/
def ordersByDate (m : Memory) : List Order :=
  newestFirst (·.date.instant) m.tables.orders

/-- Ask the store. -/
def ask {α : Type} (f : Memory → Except Fault α) : Action Memory α := do
  Action.ofExcept (f (← get).store)

/-- Change the store, unless that fails. -/
def change {α : Type} (f : Memory → Timestamp → Except Fault (Memory × α)) :
    Action Memory α := do
  let w ← get
  let (store, a) ← Action.ofExcept (f w.store w.time)
  set { w with store := store }
  return a

/-- Change the store. -/
def put (f : Memory → Memory) : Action Memory Unit :=
  modify fun w => { w with store := f w.store }

instance : Repository Memory where
  begin := pure ()
  commit := pure ()
  rollback := fun _ => pure ()
  saveCustomer := fun c => change fun m _ => return (← m.saveCustomer c, c)
  customerById := fun id => ask fun m => .ok (lookUp Customer.id id m.tables.customers)
  customerByEmail := fun email => ask fun m => .ok (m.customerByEmail email)
  countMatching := fun p => ask fun m => m.countMatching p
  findMatching := fun p => ask fun m => m.findMatching p
  applyOrder := fun email amount at' => do
    let w ← get
    let (store, outcome) := w.store.applyOrder email amount at'
    set { w with store := store }
    Action.ofExcept outcome
  listCustomers := fun page => ask fun m => .ok (page.of m.customersByTime)
  countCustomers := ask fun m => .ok m.tables.customers.length
  saveCampaign := fun c => do
    put fun m => m.putCampaign c
    return c
  campaignById := fun id => ask fun m => .ok (lookUp Campaign.id id m.tables.campaigns)
  listCampaigns := fun page => ask fun m => return page.of (← m.campaignsByTime)
  countCampaigns := ask fun m => .ok m.tables.campaigns.length
  markSending := fun id => change fun m now => m.markSending id now
  releaseToPending := fun id => change fun m now => return (← m.releaseToPending id now, ())
  recordOutcome := fun id outcome => change fun m now => m.recordOutcome id outcome now
  completeIfExhausted := fun id => change fun m now => m.completeIfExhausted id now
  saveRecord := fun r => do
    put fun m => m.putRecord r
    return r
  saveRecords := fun rs => change fun m _ => return (← m.saveRecords rs, rs)
  recordById := fun id => ask fun m => .ok (lookUp DeliveryRecord.id id m.tables.records)
  settleRecord := fun id outcome => change fun m now => m.settleRecord id outcome now
  recordsOf := fun id page status => ask fun m => return page.of (← m.recordsOf id status)
  countSince := fun since => ask fun m => m.countSince since
  saveOrder := fun o => do
    put fun m => m.withTables fun t => { t with orders := upsert Order.id o t.orders }
    return o
  orderById := fun id => ask fun m => .ok (lookUp Order.id id m.tables.orders)
  listOrders := fun page => ask fun m => .ok (page.of m.ordersByDate)
  countOrders := ask fun m => .ok m.tables.orders.length

end Memory

end Outreach
