import Outreach.Campaign.Status
import Outreach.Delivery.Status
import Outreach.Json.Display
import Outreach.Text.Utf8
import Outreach.Time.Iso.Reader
import Outreach.Uuid

/-!
# Faults

Every way in which a call can fail, as a cause. `Fault.kind` names the class
that a cause belongs to, as log lines show it, and `Fault.message` words it.
Two groups of kinds are caught together: those of a repository, and those
that mean that a value is not acceptable.

## Main definitions

* `Vocabulary`: The closed lists of words that texts are looked up in.
* `ValueProblem`: What can be wrong with the value of a rule.
* `Fault`: The causes.
* `Fault.kind`, `Fault.message`: Their classes and wordings.
* `Fault.isRepository`, `Fault.isValue`: The two groups.
-/

namespace Outreach

/-- A closed list of words. -/
inductive Vocabulary
  | ruleField
  | ruleOperator
  | ruleLogic
  | comparator
  | deliveryStatus
  | campaignStatus
  deriving DecidableEq

/-- The name of a vocabulary. -/
def Vocabulary.name : Vocabulary → String
  | .ruleField => "RuleField"
  | .ruleOperator => "RuleOperator"
  | .ruleLogic => "RuleLogic"
  | .comparator => "Comparator"
  | .deliveryStatus => "DeliveryStatus"
  | .campaignStatus => "CampaignStatus"

/-- What can be wrong with the value of a rule. -/
inductive ValueProblem
  | notNumber
  | notFinite
  | notWholeDays
  | negativeDays
  | outOfRange
  deriving DecidableEq

/-- The wording of a problem. -/
def ValueProblem.text : ValueProblem → String
  | .notNumber => "is not a number"
  | .notFinite => "is not a finite number"
  | .notWholeDays => "is not a whole number of days"
  | .negativeDays => "is a negative day count"
  | .outOfRange => "is out of range"

/-- What a repository can fail to find. -/
inductive EntityKind
  | campaign
  | deliveryRecord
  deriving DecidableEq

/-- The name of a kind of entity. -/
def EntityKind.name : EntityKind → String
  | .campaign => "Campaign"
  | .deliveryRecord => "Delivery record"

/-- The cause of a failure. -/
inductive Fault
  /-- A rule's object lacks a member. -/
  | ruleMember (wire : Json) (name : String)
  /-- A rule's object has a member outside its vocabulary. -/
  | ruleWord (wire : Json) (word : Json) (vocabulary : Vocabulary)
  /-- The value of a rule does not suit its field. -/
  | ruleValue (value : Json) (problem : ValueProblem)
  /-- A value is no word of a vocabulary. -/
  | unknownWord (word : Json) (vocabulary : Vocabulary)
  | emptyCustomerName
  | invalidEmail (shown : String)
  | negativeSpends
  | negativeVisits
  | amountNotPositive
  | emptyCampaignName
  | emptyCampaignMessage
  | negativeAudience
  /-- A state that is no outcome was to be counted or recorded. -/
  | notAnOutcome (shown : Text)
  /-- A receipt reports a state that is no outcome. -/
  | notAReceipt (shown : String)
  | identifier (refusal : Uuid.Refusal)
  /-- A timestamp left the years 1 to 9999. -/
  | dateRange
  /-- A quotient of integers is beyond every double. -/
  | quotientRange
  /-- An integer is beyond every double. -/
  | integerRange
  /-- Two values of different types were to be ordered, or a value has the
      wrong type altogether. -/
  | wrongType
  | noAttribute
  | noMember
  | campaignNotFound (id : Uuid)
  | alreadyStarted (id : Uuid) (status : Option CampaignStatus)
  | wrongState (expected found : CampaignStatus)
  | hasOutcomes (id : Uuid)
  | resolverUnavailable (reason : Text)
  | duplicateCustomer (email : Text)
  | duplicateEntity (email : Text)
  | entityNotFound (kind : EntityKind) (id : Uuid)
  | storeUnavailable (reason : Text)
  | unknownRecord (id : Uuid)
  | noSink
  /-- The server of a receipt callback could not be reached. -/
  | callbackFailed (reason : Text)
  /-- The server of a receipt callback refused a receipt. -/
  | callbackRefused (status : Nat) (body : Text)
  /-- A counter was to be lowered. -/
  | negativeIncrement
  /-- A text that has no bytes was to be stored or passed on. -/
  | notEncodable (place : Text.Unencodable)
  /-- A row violates a constraint of its table. -/
  | integrity
  /-- A text was to be an integer. -/
  | notAnInteger (text : Text) (refusal : WholeRefusal)
  /-- A text was to be a double. -/
  | notADouble (text : Text)
  /-- A text was to be a timestamp. -/
  | notATimestamp (refusal : Time.IsoRefusal)
  /-- A message template is malformed or does not suit a value. -/
  | badTemplate (reason : Text)
  /-- A failure of another layer, with its class. -/
  | foreign (kind : String) (reason : Text)
  deriving Inhabited

namespace Fault

/-- The class that a cause belongs to. -/
def kind : Fault → String
  | .ruleMember .. | .ruleWord .. | .ruleValue .. => "InvalidRuleError"
  | .unknownWord .. | .emptyCustomerName | .invalidEmail _ | .negativeSpends | .negativeVisits
  | .amountNotPositive | .emptyCampaignName | .emptyCampaignMessage | .negativeAudience
  | .notAnOutcome _ | .notAReceipt _ | .identifier _ => "ValueError"
  | .dateRange | .quotientRange | .integerRange => "OverflowError"
  | .wrongType => "TypeError"
  | .noAttribute => "AttributeError"
  | .noMember => "KeyError"
  | .campaignNotFound _ => "CampaignNotFoundError"
  | .alreadyStarted .. => "CampaignAlreadyStartedError"
  | .wrongState .. | .hasOutcomes _ => "InvalidStateTransition"
  | .resolverUnavailable _ => "ResolverUnavailableError"
  | .duplicateCustomer _ => "DuplicateCustomerError"
  | .duplicateEntity _ => "DuplicateEntityException"
  | .entityNotFound .. => "EntityNotFoundException"
  | .storeUnavailable _ => "StoreUnavailableError"
  | .unknownRecord _ => "UnknownRecordError"
  | .noSink => "SenderException"
  | .callbackFailed _ | .callbackRefused .. => "ReceiptDeliveryError"
  | .negativeIncrement | .notAnInteger .. | .notADouble _ | .notATimestamp _
  | .badTemplate _ => "ValueError"
  | .notEncodable _ => "UnicodeEncodeError"
  | .integrity => "IntegrityError"
  | .foreign kind _ => kind

/-- A word outside its vocabulary. -/
def wordText (word : Json) (vocabulary : Vocabulary) : String :=
  word.shown ++ " is not a valid " ++ vocabulary.name

/-- The wording of a cause. -/
def message : Fault → Text
  | .ruleMember wire name =>
    "Invalid rule " ++ wire.shown ++ ": " ++ Text.quoted (name : Text)
  | .ruleWord wire word vocabulary =>
    "Invalid rule " ++ wire.shown ++ ": " ++ wordText word vocabulary
  | .ruleValue value problem => "Rule value " ++ value.shown ++ " " ++ problem.text
  | .unknownWord word vocabulary => wordText word vocabulary
  | .emptyCustomerName => "Customer name cannot be empty"
  | .invalidEmail shown => "Invalid customer email: " ++ shown
  | .negativeSpends => "total_spends cannot be negative"
  | .negativeVisits => "visits cannot be negative"
  | .amountNotPositive => "Order amount must be positive"
  | .emptyCampaignName => "Campaign name cannot be empty"
  | .emptyCampaignMessage => "Campaign message cannot be empty"
  | .negativeAudience => "Audience size cannot be negative"
  | .notAnOutcome shown => "Not a delivery outcome: " ++ shown
  | .notAReceipt shown => "Receipt outcome must be SENT or FAILED, got " ++ shown
  | .identifier refusal => refusal.message
  | .dateRange => "date value out of range"
  | .quotientRange => "integer division result too large for a float"
  | .integerRange => "int too large to convert to float"
  | .wrongType => ""
  | .noAttribute => ""
  | .noMember => ""
  | .campaignNotFound id => "Campaign " ++ id.text ++ " not found"
  | .alreadyStarted id status =>
    "Campaign " ++ id.text ++ " already " ++ (status.map CampaignStatus.text).getD "unknown"
  | .wrongState expected found => "Expected status " ++ expected.text ++ ", got " ++ found.text
  | .hasOutcomes id => "Campaign " ++ id.text ++ " already has delivery outcomes"
  | .resolverUnavailable reason => reason
  | .duplicateCustomer email => "Customer with email " ++ email ++ " already exists"
  | .duplicateEntity email => "Customer with email " ++ email ++ " already exists"
  | .entityNotFound kind id => kind.name ++ " " ++ id.text ++ " not found"
  | .storeUnavailable reason => reason
  | .unknownRecord id => "Delivery record " ++ id.text ++ " not found"
  | .noSink => "No receipt sink bound to the sender"
  | .callbackFailed reason => "Receipt callback failed: " ++ reason
  | .callbackRefused status body =>
    "Receipt callback returned " ++ toString status ++ ": " ++ body
  | .negativeIncrement => "Counters can only be incremented by non-negative amounts."
  | .notEncodable place => place.message
  | .integrity => ""
  | .notAnInteger text .malformed =>
    "invalid literal for int() with base 10: " ++ text.quotedWithin Text.literalLimit
  | .notAnInteger _ (.tooLong digits) =>
    "Exceeds the limit (" ++ toString wholeDigitLimit ++
      " digits) for integer string conversion: value has " ++ toString digits ++
      " digits; use sys.set_int_max_str_digits() to increase the limit"
  | .notATimestamp refusal => refusal.message
  | .notADouble text => "could not convert string to float: " ++ Text.quoted text
  | .badTemplate reason => reason
  | .foreign _ reason => reason

/-- The failures of a repository. -/
def isRepository : Fault → Bool
  | .duplicateEntity _ | .entityNotFound .. | .storeUnavailable _ => true
  | _ => false

/-- The failures that mean that a rule is not acceptable. -/
def isRule : Fault → Bool
  | .ruleMember .. | .ruleWord .. | .ruleValue .. => true
  | _ => false

/-- The failures that mean that a value is not acceptable. -/
def isValue (f : Fault) : Bool :=
  f.isRule || f.kind == "ValueError"

end Fault

end Outreach
