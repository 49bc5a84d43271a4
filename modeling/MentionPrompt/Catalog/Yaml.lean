import MentionPrompt.Catalog.Workflow
import MentionPrompt.Yaml.Shape
import MentionPrompt.Yaml.Writer

/-!
Media, steps and workflows as YAML. Unset parts are left out when they are written.
-/

namespace MentionPrompt

/-- The node of a media entry. -/
def Media.toNode (entry : Media) : Yaml.Node :=
  .record <|
    [("media_id", .ofText entry.mediaId), ("url", .ofText entry.url),
      ("storage_path", .ofText entry.storagePath)] ++
      Yaml.Node.optionalField "display_name" (entry.displayName.map .ofText)

/-- A media entry; its id and its address must be there. -/
def Media.ofNode? (node : Yaml.Node) : Option Media := do
  let fields ← node.asRecord? ["media_id", "url", "storage_path", "display_name"]
  return {
    mediaId := ← Yaml.Node.required? fields "media_id" Yaml.Node.asText?
    url := ← Yaml.Node.required? fields "url" Yaml.Node.asText?
    storagePath := ← Yaml.Node.optional? fields "storage_path" "" Yaml.Node.asText?
    displayName := ← Yaml.Node.nullable? fields "display_name" Yaml.Node.asText? }

/-- An option; its value must be there. -/
def StepOption.ofNode? (node : Yaml.Node) : Option StepOption := do
  let fields ← node.asRecord? ["value", "prompt_fragment", "prompt_media"]
  return {
    value := ← Yaml.Node.required? fields "value" Yaml.Node.asText?
    promptFragment := ← Yaml.Node.nullable? fields "prompt_fragment" Yaml.Node.asText?
    promptMedia := ← Yaml.Node.nullable? fields "prompt_media" Media.ofNode? }

/-- The name of a step type. -/
def StepType.ofNode? (node : Yaml.Node) : Option StepType := node.asText?.bind StepType.ofName?

/-- A step; its name must be there. -/
def Step.ofNode? (node : Yaml.Node) : Option Step := do
  let fields ← node.asRecord? ["step_name", "step_type", "options"]
  return {
    stepName := ← Yaml.Node.required? fields "step_name" Yaml.Node.asText?
    stepType := ← Yaml.Node.optional? fields "step_type" .singleSelect StepType.ofNode?
    options := ←
      Yaml.Node.optional? fields "options" [] (Yaml.Node.asList? StepOption.ofNode?) }

/-- A workflow, its step names unchecked. -/
def Workflow.ofNode? (node : Yaml.Node) : Option Workflow := do
  let fields ← node.asRecord? ["steps"]
  return { steps := ← Yaml.Node.optional? fields "steps" [] (Yaml.Node.asList? Step.ofNode?) }

/-- The workflow of a document. -/
def Workflow.ofYaml (text : String) : Except PromptError Workflow :=
  match (Yaml.read? text).bind Workflow.ofNode? with
  | some workflow => workflow.checked
  | none => .error (.malformed .workflow)

end MentionPrompt
