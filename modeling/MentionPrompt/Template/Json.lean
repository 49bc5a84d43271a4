import MentionPrompt.Catalog.Json
import MentionPrompt.Template.Basic

/-!
Templates as JSON.
-/

namespace MentionPrompt

/-- The fields of a template. -/
def Template.toJson (template : Template) : Json :=
  .object [("canonical_text", .string template.canonicalText),
    ("media_catalog", .array (template.mediaCatalog.map Media.toJson))]

/-- A template. -/
def Template.ofJson? (value : Json) : Option Template := do
  let fields ← value.asRecord? ["canonical_text", "media_catalog"]
  return {
    canonicalText := ← Json.optional? fields "canonical_text" "" Json.asString?
    mediaCatalog := ← Json.optional? fields "media_catalog" [] (Json.asList? Media.ofJson?) }

end MentionPrompt
