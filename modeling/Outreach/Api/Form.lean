import Outreach.Input.Moment
import Outreach.Rule.Basic
import Outreach.Service.Customers

/-!
# Forms

What a caller has to give, as readers of JSON values. Every reader reports all
issues of a value, each with its place. Members that a form does not name are
passed over.

The value of a rule may be a text, a number or a truth value. It is kept as a
text: a whole number without a point, and a truth value as zero or one.

## Main definitions

* `Rule.ofForm`, `rulesForm`: Rules.
* `NewCampaign`, `ReceiptForm`: What is given for campaigns and receipts.
* `previewForm`, `campaignForm`, `customerForm`, `orderForm`, `receiptForm`:
  The forms.
* `pageForm`, `statusForm`, `identifierForm`: Parameters and parts of a path.
-/

namespace Outreach

namespace Api

/-- The members of a form. -/
def membersOf (v : Json) : Checked (List (Text × Json)) :=
  match v with
  | .object members => .value members
  | _ => .issue .notBodyObject

/-- A value that must be given. -/
def required {α : Type} (members : List (Text × Json)) (name : String)
    (read : Json → Except IssueKind α) : Checked α :=
  given members name read (.missing name)

/-- A value that may be null. -/
def nullable {α : Type} (read : Json → Except IssueKind α) : Json → Except IssueKind (Option α)
  | .null => .ok none
  | v => (read v).map some

/-- A text of a certain length. -/
def textOf (least : Nat) (most : Option Nat) (v : Json) : Except IssueKind Text := do
  -- Lengths are counted in characters, which lone halves are not.
  let s ← Lenient.string v
  if s.length < least then throw (.textTooShort least)
  match most with
  | some n => if n < s.length then throw (.textTooLong n) else return s
  | none => return s

/-- The value of a rule. -/
def ruleValue (v : Json) : Checked Text :=
  match v with
  | .text t => .value t
  | .int n => .value (toString n)
  | .bool b => .value (if b then "1" else "0")
  | .double x => .value (if x.isIntegral then toString x.truncate else x.text)
  | _ =>
    -- One issue for each type that a value may have.
    .flawed (.issues [⟨.notText, [.member "str"]⟩, ⟨.notInteger, [.member "int"]⟩,
      ⟨.notNumber, [.member "float"]⟩])

/-- The logic of a rule. -/
def logicOf (v : Json) : Except IssueKind Rule.Logic :=
  -- Not only null: whatever counts as false stands for the default.
  if v.isEmptyLike then .ok .and
  else Lenient.choice ["AND", "OR"] Rule.Logic.ofText? v

/-- The words for the fields of a rule. -/
def fieldWords : List String := ["totalSpends", "visits", "lastVisit"]

/-- The words for the operators of a rule. -/
def operatorWords : List String := [">", "<", ">=", "<=", "="]

/-- The rule of a form. -/
def ruleForm (v : Json) : Checked Rule :=
  (membersOf v).andThen fun ms =>
    ((((required ms "field" (Lenient.choice fieldWords Rule.Field.ofText?)).map Rule.mk).ap
      (required ms "operator" (Lenient.choice operatorWords Rule.Operator.ofText?))).ap
      (readMember ms "value" ruleValue (.missing "value"))).ap
      (given ms "logic" logicOf (.value .and))

/-- A list of forms. -/
def listForm {α : Type} (read : Json → Checked α) (v : Json) : Checked (List α) :=
  (Checked.ofValue (Lenient.list v)).andThen fun items => Checked.items read 0 items

/-- The rules of a form. -/
def rulesMember (ms : List (Text × Json)) : Checked (List Rule) :=
  readMember ms "rules" (listForm ruleForm) (.value [])

/-- The rules to count an audience of. -/
def previewForm (v : Json) : Checked (List Rule) :=
  (membersOf v).andThen rulesMember

/-- What a caller gives for a new campaign. -/
structure NewCampaign where
  name : Text
  message : Text
  rules : List Rule
  deriving DecidableEq, Inhabited

/-- A new campaign. -/
def campaignForm (v : Json) : Checked NewCampaign :=
  (membersOf v).andThen fun ms =>
    (((required ms "name" (textOf 1 (some 255))).map NewCampaign.mk).ap
      (required ms "message" (textOf 1 none))).ap (rulesMember ms)

/-- A value that a condition holds of. -/
def checked {α : Type} (read : Json → Except IssueKind α) (condition : α → Bool)
    (kind : IssueKind) (v : Json) : Checked α :=
  (Checked.ofValue (read v)).require condition kind

/-- An amount that was spent. -/
def spendForm : Json → Checked Double :=
  checked Lenient.double Double.zero.le (.belowLeast (.real 0))

/-- An amount to be paid. -/
def amountForm : Json → Checked Double :=
  checked Lenient.double Double.zero.lt (.notAbove (.real 0))

/-- A number that is not negative. -/
def countForm : Json → Checked Int :=
  checked Lenient.integer (fun n => decide (0 ≤ n)) (.belowLeast (.whole 0))

/-- A timestamp that may be null. -/
def momentForm (v : Json) : Checked (Option Timestamp) :=
  .ofValue (nullable Lenient.timestamp v)

/-- A text that may be null. -/
def phoneForm (v : Json) : Except IssueKind Json := do
  return ((← nullable Lenient.text v).map Json.text).getD .null

/-- A new customer. -/
def customerForm (v : Json) : Checked NewCustomer :=
  (membersOf v).andThen fun ms =>
    ((((((required ms "name" (textOf 1 (some 255))).map NewCustomer.mk).ap
      (required ms "email" (textOf 3 (some 320)))).ap
      (given ms "phone" phoneForm (.value .null))).ap
      (readAlias ms "totalSpends" "total_spends" spendForm (.value Double.zero))).ap
      (readMember ms "visits" countForm (.value 0))).ap
      (readAlias ms "lastVisit" "last_visit" momentForm (.value none))

/-- A new order. -/
def orderForm (v : Json) : Checked NewOrder :=
  (membersOf v).andThen fun ms =>
    ((((readAlias ms "customerEmail" "customer_email"
        (fun e => .ofValue (textOf 3 none e)) (.missing "customerEmail")).map NewOrder.mk).ap
      (readMember ms "amount" amountForm (.missing "amount"))).ap
      (readMember ms "date" momentForm (.value none))).ap
      (readMember ms "items" (listForm fun i => .ofValue ((Lenient.text i).map Json.text))
        (.value []))

/-- What a caller gives for a receipt. -/
structure ReceiptForm where
  recordId : Uuid
  status : DeliveryStatus
  deriving DecidableEq, Inhabited

/-- The words for the states of a record. -/
def statusWords : List String := ["PENDING", "SENT", "FAILED"]

/-- The state of a record. -/
def statusValue : Json → Except IssueKind DeliveryStatus :=
  Lenient.choice statusWords DeliveryStatus.ofText?

/-- A receipt. -/
def receiptForm (v : Json) : Checked ReceiptForm :=
  (membersOf v).andThen fun ms =>
    ((readAlias ms "recordId" "record_id" (fun i => .ofValue (Lenient.identifier i))
        (.missing "recordId")).map ReceiptForm.mk).ap
      (required ms "status" statusValue)

/-- The greatest number of entries in an answer. -/
def pageLimit : Int := 1000

/-- The number of entries in an answer. -/
def limitForm (v : Json) : Checked Int :=
  (checked Lenient.integer (fun n => decide (1 ≤ n)) (.belowLeast (.whole 1)) v).require
    (fun n => decide (n ≤ pageLimit)) (.aboveGreatest (.whole pageLimit))

/-- A part of a listing. -/
def pageForm (ms : List (Text × Json)) : Checked Page :=
  ((readMember ms "limit" limitForm (.value 100)).map Page.mk).ap
    (readMember ms "offset" countForm (.value (0 : Int)))

/-- The state that the records of a listing have. -/
def statusForm (ms : List (Text × Json)) : Checked (Option DeliveryStatus) :=
  given ms "status" (fun v => (statusValue v).map some) (.value none)

/-- The identifier of a campaign in a path. -/
def identifierForm (ms : List (Text × Json)) : Checked Uuid :=
  required ms "campaign_id" Lenient.identifier

end Api

end Outreach
