import MentionPrompt.Catalog.Workflow
import MentionPrompt.Json.Shape

/-!
Media, steps and workflows as JSON. Unset parts are left out when they are written. Main statement: a
media entry is read back as it was.
-/

namespace MentionPrompt

/-- The fields of a media entry. -/
def Media.toJson (entry : Media) : Json :=
  .object <|
    [("media_id", .string entry.mediaId), ("url", .string entry.url),
      ("storage_path", .string entry.storagePath)] ++
      Json.field? "display_name" (entry.displayName.map .string)

/-- A media entry; its id and its address must be there. -/
def Media.ofJson? (value : Json) : Option Media := do
  let fields ← value.asRecord? ["media_id", "url", "storage_path", "display_name"]
  return {
    mediaId := ← Json.required? fields "media_id" Json.asString?
    url := ← Json.required? fields "url" Json.asString?
    storagePath := ← Json.optional? fields "storage_path" "" Json.asString?
    displayName := ← Json.nullable? fields "display_name" Json.asString? }

theorem Media.ofJson?_toJson (entry : Media) : ofJson? entry.toJson = some entry := by
  rcases entry with ⟨mediaId, url, storagePath, name | name⟩
  · rfl
  · rfl

/-- The name of a step type. -/
def StepType.ofJson? (value : Json) : Option StepType := value.asName?.bind StepType.ofName?

/-- The fields of an option. -/
def StepOption.toJson (option : StepOption) : Json :=
  .object <|
    [("value", .string option.value)] ++
      Json.field? "prompt_fragment" (option.promptFragment.map .string) ++
      Json.field? "prompt_media" (option.promptMedia.map Media.toJson)

/-- An option; its value must be there. -/
def StepOption.ofJson? (value : Json) : Option StepOption := do
  let fields ← value.asRecord? ["value", "prompt_fragment", "prompt_media"]
  return {
    value := ← Json.required? fields "value" Json.asString?
    promptFragment := ← Json.nullable? fields "prompt_fragment" Json.asString?
    promptMedia := ← Json.nullable? fields "prompt_media" Media.ofJson? }

/-- The fields of a step. -/
def Step.toJson (step : Step) : Json :=
  .object [("step_name", .string step.stepName), ("step_type", .string step.stepType.name),
    ("options", .array (step.options.map StepOption.toJson))]

/-- A step; its name must be there. -/
def Step.ofJson? (value : Json) : Option Step := do
  let fields ← value.asRecord? ["step_name", "step_type", "options"]
  return {
    stepName := ← Json.required? fields "step_name" Json.asString?
    stepType := ← Json.optional? fields "step_type" .singleSelect StepType.ofJson?
    options := ← Json.optional? fields "options" [] (Json.asList? StepOption.ofJson?) }

/-- The fields of a workflow. -/
def Workflow.toJson (workflow : Workflow) : Json :=
  .object [("steps", .array (workflow.steps.map Step.toJson))]

/-- A workflow. -/
def Workflow.ofJson? (value : Json) : Option Workflow := do
  let fields ← value.asRecord? ["steps"]
  return { steps := ← Json.optional? fields "steps" [] (Json.asList? Step.ofJson?) }

end MentionPrompt
