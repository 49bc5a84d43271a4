/-!
Notices: what a run remarks on without failing.
-/

namespace MentionPrompt

/-- A remark for the user. -/
inductive Notice where
  | severalValues (step : String) (count : Nat)
  | undeclaredValue (step value : String)
  | unwritableIdentifier (identifier : String)
  | unfoundSpan (replaced : String)
  | unloggedEvent (action error : String)
  deriving DecidableEq, Repr

namespace Notice

/-- What the notice says. -/
def message : Notice → String
  | severalValues .. => "single-answer step has several selected values; using the first"
  | undeclaredValue .. => "answer matches no declared option"
  | unwritableIdentifier .. => "candidate identifier cannot be written as a token"
  | unfoundSpan .. => "typed capture span not found at the end of the document"
  | unloggedEvent .. => "failed to log event"

/-- What the notice is about. -/
def details : Notice → List (String × String)
  | severalValues step count => [("step", step), ("selected", toString count)]
  | undeclaredValue step value => [("step", step), ("value", value)]
  | unwritableIdentifier identifier => [("identifier", identifier)]
  | unfoundSpan replaced => [("replaced", replaced)]
  | unloggedEvent action error => [("action", action), ("error", error)]

end Notice

end MentionPrompt
