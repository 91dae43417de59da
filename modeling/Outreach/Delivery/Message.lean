import Outreach.Text.Substitute

/-!
# Message Templates

A template is a text in which the placeholder for the recipient's name may
occur any number of times. Nothing else in it is interpreted.

## Main definitions

* `placeholder`: The placeholder.
* `render`: The message for a recipient.
-/

namespace Outreach

/-- What stands for the recipient's name. -/
def placeholder : String := "\x7bname\x7d"

/-- The message for a recipient. -/
def render (template name : Text) : Text :=
  template.substitute placeholder name

end Outreach
