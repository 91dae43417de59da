/-!
# Campaign States

A campaign waits, is being sent, and is completed when every recipient of its
audience has an outcome.

## Main definitions

* `CampaignStatus`: The states.
* `CampaignStatus.text`, `CampaignStatus.ofText?`: Their texts.
-/

namespace Outreach

/-- The state of a campaign. -/
inductive CampaignStatus
  | pending
  | sending
  | completed
  deriving DecidableEq, Inhabited

namespace CampaignStatus

/-- The text of a state. -/
def text : CampaignStatus → String
  | .pending => "pending"
  | .sending => "sending"
  | .completed => "completed"

/-- The state with a text. -/
def ofText? (s : String) : Option CampaignStatus :=
  [pending, sending, completed].find? fun c => c.text == s

theorem ofText?_text (c : CampaignStatus) : ofText? c.text = some c := by
  cases c <;> decide

end CampaignStatus

end Outreach
