import MentionPrompt.Json.Value
import MentionPrompt.Mention.Node
import MentionPrompt.Segment.Json

/-!
What nodes look like, as JSON.
-/

namespace MentionPrompt

/-- The fields of a rendered node. -/
def Rendered.toJson : Rendered → Json
  | .text t => .object [("type", .string "text"), ("text", .string t)]
  | .pill p =>
    .object [("type", .string "pill"), ("category", p.category.toJson), ("label", .string p.label),
      ("missing", .bool p.missing)]

end MentionPrompt
