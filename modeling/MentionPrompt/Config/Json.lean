import MentionPrompt.Config.Basic
import MentionPrompt.Json.Shape

/-!
Configurations as JSON. Unset parts are left out when they are written.
-/

namespace MentionPrompt

/-- The fields of a configuration. -/
def Config.toJson (config : Config) : Json :=
  .object <|
    [("multi_select_separator", .string config.multiSelectSeparator),
      ("insert_trailing_space", .bool config.insertTrailingSpace)] ++
      Json.field? "max_candidates" (config.maxCandidates.map (.nat ·.toNat)) ++
      Json.field? "events_log" (config.eventsLog.map .string)

/-- A configuration. -/
def Config.ofJson? (value : Json) : Option Config := do
  let fields ← value.asRecord?
    ["multi_select_separator", "insert_trailing_space", "max_candidates", "events_log"]
  return {
    multiSelectSeparator := ← Json.optional? fields "multi_select_separator"
      RunContext.defaultSeparator Json.asString?
    insertTrailingSpace := ← Json.optional? fields "insert_trailing_space" true Json.asBool?
    maxCandidates := ← Json.nullable? fields "max_candidates" Json.asWord?
    eventsLog := ← Json.nullable? fields "events_log" Json.asString? }

end MentionPrompt
