import MentionPrompt.Catalog.Yaml
import MentionPrompt.Template.Basic

/-!
Templates as YAML documents.
-/

namespace MentionPrompt.Template

/-- The node of a template. -/
def toNode (template : Template) : Yaml.Node :=
  .record [("canonical_text", .ofText template.canonicalText),
    ("media_catalog", .sequence (template.mediaCatalog.map Media.toNode))]

/-- A template. -/
def ofNode? (node : Yaml.Node) : Option Template := do
  let fields ← node.asRecord? ["canonical_text", "media_catalog"]
  return {
    canonicalText := ← Yaml.Node.optional? fields "canonical_text" "" Yaml.Node.asText?
    mediaCatalog := ←
      Yaml.Node.optional? fields "media_catalog" [] (Yaml.Node.asList? Media.ofNode?) }

/-- The document of a template. -/
def toYaml (template : Template) : String := Yaml.write template.toNode

/-- The template of a document. -/
def ofYaml (text : String) : Except PromptError Template :=
  match (Yaml.read? text).bind ofNode? with
  | some template => .ok template
  | none => .error (.malformed .template)

end MentionPrompt.Template
