import MentionPrompt.Editing.Capture
import MentionPrompt.Segment.Json

/-!
Candidates as JSON.
-/

namespace MentionPrompt

/-- The fields of a candidate. -/
def Candidate.toJson (candidate : Candidate) : Json :=
  .object [("kind", candidate.kind.toJson), ("identifier", .string candidate.identifier),
    ("label", .string candidate.label)]

end MentionPrompt
