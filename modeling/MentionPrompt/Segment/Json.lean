import MentionPrompt.Json.Shape
import MentionPrompt.Segment.Basic

/-!
Segments and reference kinds as JSON. A segment names its type in the field `type`, or as the first
item of an array.
-/

namespace MentionPrompt

/-- The name of a reference kind. -/
def RefKind.toJson (kind : RefKind) : Json := .string kind.name

/-- A reference kind by its name. -/
def RefKind.ofJson? (value : Json) : Option RefKind := value.asName?.bind RefKind.ofName?

theorem RefKind.ofJson?_toJson (kind : RefKind) : ofJson? kind.toJson = some kind := by
  cases kind with
  | step => rfl
  | media => rfl

namespace Segment

/-- The fields of a segment. -/
def toJson : Segment → Json
  | .literal text => .object [("type", .string "literal"), ("text", .string text)]
  | .reference .step name => .object [("type", .string "step_ref"), ("step_name", .string name)]
  | .reference .media id => .object [("type", .string "media_ref"), ("media_id", .string id)]

/-- The field that a type of segment has, and the segment that its text makes. -/
def form? : String → Option (String × (String → Segment))
  | "literal" => some ("text", .literal)
  | "step_ref" => some ("step_name", .reference .step)
  | "media_ref" => some ("media_id", .reference .media)
  | _ => none

/-- A segment in either of its forms. -/
def ofJson? : Json → Option Segment
  | .object fields => do
    let (name, build) ← form? (← Json.required? fields "type" Json.asString?)
    return build (← Json.required? fields name Json.asString?)
  | .array [type, content] => do
    let (_, build) ← form? (← type.asString?)
    return build (← content.asString?)
  | _ => none

end Segment

end MentionPrompt
