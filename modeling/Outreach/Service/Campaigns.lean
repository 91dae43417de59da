import Outreach.Service.Dispatch

/-!
# Campaigns and Totals

Creating campaigns, looking at them and launching them. The audience is
counted when a campaign is created, and the count is kept as its size.

## Main definitions

* `Campaigns.create`: A new campaign.
* `Campaigns.find`, `Campaigns.list`, `Campaigns.deliveries`: What is stored.
* `Campaigns.launch`: The dispatch of a stored campaign.
* `Totals`, `dashboard`: Totals over everything stored.
-/

namespace Outreach

variable {σ : Type}

namespace Campaigns

/-- The campaign that a caller asks for, of a given audience size. -/
def draft (name message : Text) (rules : List Rule) (size : Nat) : Action σ Campaign := do
  Action.ofExcept (Campaign.check name message size)
  let id ← Action.freshId
  let now ← Action.now
  return Campaign.create id name message rules size now

/-- Count a new campaign and note it. -/
def announce (c : Campaign) (size : Nat) : Action σ Unit := do
  Action.measure Metrics.campaignCreated
  Action.note .info .campaigns
    ("Campaign created: " ++ c.id.text ++ " (name=" ++ c.name ++ ", audience=" ++
      toString size ++ ")")

variable [Repository σ]

/-- A new campaign. -/
def create (name message : Text) (rules : List Rule) : Action σ Campaign := do
  let p ← compileAt rules none
  let size ← Audience.count p
  let c ← draft name message rules size
  let c ← unitOfWork (Repository.saveCampaign c)
  announce c size
  return c

/-- The campaign with an identifier. -/
def find (id : Uuid) : Action σ Campaign := do
  match ← unitOfWork (Repository.campaignById id) with
  | some c => return c
  | none => throw (.campaignNotFound id)

/-- Campaigns, newest first. -/
def list (page : Page) : Action σ (List Campaign) :=
  unitOfWork (Repository.listCampaigns page)

/-- The delivery records of a campaign, in one state if one is given. -/
def deliveries (id : Uuid) (page : Page) (status : Option DeliveryStatus) :
    Action σ (List DeliveryRecord) :=
  unitOfWork do
    if (← Repository.campaignById id).isNone then throw (.campaignNotFound id)
    Repository.recordsOf id page status

/-- Dispatch a stored campaign by its own rules and message. -/
def launch (id : Uuid) : Action σ (List DeliveryRecord) := do
  let c ← find id
  Action.within [("campaign_id", .json c.id.text)] (Dispatch.start c.id c.rules c.message none)

end Campaigns

/-- Totals over everything stored. -/
structure Totals where
  customers : Nat
  orders : Nat
  campaigns : Nat
  /-- Delivery records of the last seven days. -/
  recentActivity : Nat
  deriving DecidableEq, Inhabited

/-- How many days back activity is recent. -/
def recentDays : Nat := 7

/-- The totals at a given time, or now. -/
def dashboard [Repository σ] (now : Option Timestamp) : Action σ Totals := do
  let clock ← Action.now
  match (now.getD clock).minusDays? recentDays with
  | none => throw .dateRange
  | some since =>
    unitOfWork do
      let customers ← Repository.countCustomers
      let orders ← Repository.countOrders
      let campaigns ← Repository.countCampaigns
      let recent ← Repository.countSince since
      return ⟨customers, orders, campaigns, recent⟩

end Outreach
