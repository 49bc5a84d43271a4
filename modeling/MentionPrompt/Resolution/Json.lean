import MentionPrompt.Catalog.Json
import MentionPrompt.Resolution.Prompt

/-!
Answers, failures and resolved prompts as JSON. A single answer is a text, several are a list. Main
statement: a resolved prompt is read back as it was.
-/

namespace MentionPrompt

/-- A text, or a list of texts. -/
def Answer.toJson : Answer → Json
  | .single value => .string value
  | .multiple values => .strings values

/-- An answer: a text, or a list of texts. -/
def Answer.ofJson? : Json → Option Answer
  | .string value => some (.single value)
  | .array items => (items.mapM Json.asString?).map .multiple
  | _ => none

/-- The answers by step name. -/
def Answers.toJson (answers : Answers) : Json :=
  .object (answers.entries.map fun (name, answer) => (name, answer.toJson))

/-- Answers by step name. -/
def Answers.ofJson? : Json → Option Answers
  | .object fields => do
    return .ofList (← fields.mapM fun (name, value) => return (name, ← Answer.ofJson? value))
  | _ => none

/-- The fields of a failure. -/
def ResolutionFailure.toJson : ResolutionFailure → Json
  | .missingAnswer index stepName =>
    .object [("error", .string "missing_answer"), ("segment_index", .nat index),
      ("step_name", .string stepName)]
  | .danglingMedia index mediaId =>
    .object [("error", .string "dangling_media_reference"), ("segment_index", .nat index),
      ("media_id", .string mediaId)]

/-- The fields of a resolved prompt. -/
def ResolvedPrompt.toJson (prompt : ResolvedPrompt) : Json :=
  .object [("text", .string prompt.text), ("attached_media", .array (prompt.media.map Media.toJson))]

/-- A resolved prompt, with its text and all its media. -/
def ResolvedPrompt.ofJson? (value : Json) : Option ResolvedPrompt := do
  let fields ← value.asRecord? ["text", "attached_media"]
  return {
    text := ← Json.required? fields "text" Json.asString?
    media := ← Json.required? fields "attached_media" (Json.asList? Media.ofJson?) }

theorem ResolvedPrompt.ofJson?_toJson (prompt : ResolvedPrompt) :
    ofJson? prompt.toJson = some prompt := by
  have hmedia := Json.asList?_array_map Media.ofJson?_toJson prompt.media
  simp [toJson, ofJson?, Json.asRecord?, Json.required?, Json.field, Json.asString?, hmedia]

end MentionPrompt
