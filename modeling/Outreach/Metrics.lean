import Outreach.Fault
import Outreach.Number.Arithmetic
import Outreach.Number.Power
import Outreach.Number.Total

/-!
# Metrics

Counters of what happened, a gauge of the campaigns that are being sent, and
the sizes of all dispatches, which are reported as a histogram.

## Main definitions

* `Amount`: What a counter is raised by.
* `Metrics`: The counts.
* `Metrics.campaignCreated`, `Metrics.campaignStarted`,
  `Metrics.campaignCompleted`, `Metrics.receiptRecorded`,
  `Metrics.receiptDropped`, `Metrics.requestAnswered`: What is counted.
* `Metrics.samples`: The counts as named samples.
-/

namespace Outreach

/-- Counts under labels, in the order of their first occurrence. -/
abbrev Tally (α : Type) := List (α × Nat)

/-- A tally with one more under a label. -/
def Tally.bump {α : Type} [DecidableEq α] (label : α) : Tally α → Tally α
  | [] => [(label, 1)]
  | (l, n) :: rest => if l = label then (l, n + 1) :: rest else (l, n) :: Tally.bump label rest

/-- The count under a label. -/
def Tally.count {α : Type} [DecidableEq α] (label : α) : Tally α → Nat
  | [] => 0
  | (l, n) :: rest => if l = label then n else Tally.count label rest

/-- An answered request: method, endpoint and status. -/
structure RequestLabel where
  method : Text
  endpoint : Text
  status : Text
  deriving DecidableEq

/-- What a counter is raised by. -/
inductive Amount
  | whole (n : Int)
  | real (x : Double)
  deriving DecidableEq, Inhabited

namespace Amount

/-- An amount as a double. -/
def toDouble : Amount → Double
  | whole n => Double.ofInt n
  | real x => x

/-- Whether an amount is negative. -/
def isNegative : Amount → Bool
  | whole n => decide (n < 0)
  | real x => x.lt Double.zero

/-- Whether an amount is at most a number. -/
def atMost (bound : Nat) : Amount → Bool
  | whole n => decide (n ≤ bound)
  | real x => x.le (Double.ofInt bound)

/-- The whole amount of an amount, if it is one. -/
def whole? : Amount → Option Nat
  | whole n => some n.toNat
  | real _ => none

/-- The sum of some amounts, as a counter holds it. Doubles are added in order;
    up to `2 ^ 53`, sums of whole amounts are exact. -/
def sumOf (amounts : List Amount) : Int :=
  let exact := (amounts.mapM whole?).map total
  match exact with
  -- Beyond that bound the sum depends on the order of the summands.
  | some n => if n ≤ twoTo 53 then n else rounded
  | none => rounded
where
  /-- The sum in doubles. -/
  rounded : Int :=
    ((amounts.map toDouble).foldl Double.add Double.zero).truncate

end Amount

/-- The counts of a program run. -/
structure Metrics where
  campaignsCreated : Nat
  campaignsStarted : Nat
  campaignsCompleted : Nat
  /-- Campaigns that wait for receipts. -/
  campaignsSending : Int
  /-- The number of recipients of every dispatch, in order. -/
  fanouts : List Amount
  receiptsRecorded : Tally Text
  receiptsDropped : Tally Text
  requests : Tally RequestLabel
  deriving DecidableEq

namespace Metrics

/-- Nothing has happened. -/
def empty : Metrics := ⟨0, 0, 0, 0, [], [], [], []⟩

instance : Inhabited Metrics := ⟨empty⟩

/-- A campaign was created. -/
def campaignCreated (m : Metrics) : Metrics :=
  { m with campaignsCreated := m.campaignsCreated + 1 }

/-- The dispatch of a campaign has begun. -/
def dispatchBegun (m : Metrics) : Metrics :=
  { m with
    campaignsStarted := m.campaignsStarted + 1
    campaignsSending := m.campaignsSending + 1 }

/-- A campaign was dispatched to a number of recipients. A negative number and
    one beyond every double are refused, but only after the campaign was
    counted. -/
def campaignStarted (m : Metrics) (recipients : Amount) : Metrics × Except Fault Unit :=
  -- The counter and the gauge are raised before the number is looked at.
  let started := m.dispatchBegun
  if recipients.isNegative then (started, .error .negativeIncrement)
  else if recipients matches .whole _ && recipients.toDouble.isInfinite then
    (started, .error .integerRange)
  else ({ started with fanouts := m.fanouts ++ [recipients] }, .ok ())

/-- A campaign was completed. -/
def campaignCompleted (m : Metrics) : Metrics :=
  { m with
    campaignsCompleted := m.campaignsCompleted + 1
    campaignsSending := m.campaignsSending - 1 }

/-- A receipt settled a record. -/
def receiptRecorded (m : Metrics) (outcome : Text) : Metrics :=
  { m with receiptsRecorded := m.receiptsRecorded.bump outcome }

/-- A receipt changed nothing. -/
def receiptDropped (m : Metrics) (reason : Text) : Metrics :=
  { m with receiptsDropped := m.receiptsDropped.bump reason }

/-- A request was answered. -/
def requestAnswered (m : Metrics) (label : RequestLabel) : Metrics :=
  { m with requests := m.requests.bump label }

/-- The names of everything that can be counted or measured with. -/
def names : List String :=
  ["record_campaign_created", "record_campaign_started", "record_campaign_completed",
    "record_receipt", "record_receipt_dropped", "record_http_request", "http_requests_total",
    "http_request_duration_seconds", "campaigns_created_total", "campaigns_started_total",
    "campaigns_completed_total", "campaigns_sending", "delivery_records_created_total",
    "dispatch_fanout_size", "receipts_recorded_total", "receipts_dropped_total", "Counter",
    "Histogram", "Gauge"]

/-- The upper bounds of the histogram of dispatch sizes, with their texts. -/
def fanoutBounds : List (Nat × String) :=
  [(0, "0.0"), (1, "1.0"), (10, "10.0"), (50, "50.0"), (100, "100.0"), (500, "500.0"),
    (1000, "1000.0"), (5000, "5000.0"), (10000, "10000.0"), (50000, "50000.0")]

/-- How many delivery records were created. -/
def recordsCreated (m : Metrics) : Int :=
  Amount.sumOf m.fanouts

/-- How many dispatches had at most a number of recipients. -/
def fanoutsUpTo (m : Metrics) (bound : Nat) : Nat :=
  m.fanouts.countP (Amount.atMost bound)

/-- The counts without labels. -/
def plainSamples (m : Metrics) : List (String × Int) :=
  [("campaigns_created_total", (m.campaignsCreated : Int)),
    ("campaigns_started_total", (m.campaignsStarted : Int)),
    ("campaigns_completed_total", (m.campaignsCompleted : Int)),
    ("campaigns_sending", m.campaignsSending),
    ("delivery_records_created_total", m.recordsCreated),
    ("dispatch_fanout_size_bucket|le=+Inf", (m.fanouts.length : Int)),
    ("dispatch_fanout_size_count", (m.fanouts.length : Int)),
    ("dispatch_fanout_size_sum", m.recordsCreated)] ++
  (fanoutBounds.map fun b =>
    ("dispatch_fanout_size_bucket|le=" ++ b.2, (m.fanoutsUpTo b.1 : Int)))

/-- The name of the sample of answered requests with a label. -/
def sampleName (l : RequestLabel) : Text :=
  "http_requests_total|endpoint=" ++ l.endpoint ++ "|method=" ++ l.method ++ "|status=" ++ l.status

/-- The counts with labels. A label follows the name behind a bar. -/
def labelledSamples (m : Metrics) : List (Text × Int) :=
  let named (name : Text) (t : Text × Nat) : Text × Int := (name ++ t.1, t.2)
  m.receiptsRecorded.map (named "receipts_recorded_total|outcome=") ++
    m.receiptsDropped.map (named "receipts_dropped_total|reason=") ++
    m.requests.map fun t => (sampleName t.1, (t.2 : Int))

/-- The counts as named samples. -/
def allSamples (m : Metrics) : List (Text × Int) :=
  (m.plainSamples.map fun s => (Text.ofString s.1, s.2)) ++ m.labelledSamples

/-- The samples that are not zero. -/
def samples (m : Metrics) : List (Text × Int) :=
  m.allSamples.filter fun s => s.2 != 0

end Metrics

end Outreach
