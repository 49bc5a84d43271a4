import MentionPrompt.Config.Basic
import MentionPrompt.Yaml.Shape
import MentionPrompt.Yaml.Writer

/-!
Configurations as YAML documents. Unset parts are left out when they are written; what is read is
checked for faults.
-/

namespace MentionPrompt.Config

/-- The node of a truth value. -/
def boolNode (b : Bool) : Yaml.Node := .scalar .plain (if b then "true" else "false")

/-- The node of a number. -/
def wordNode (word : UInt64) : Yaml.Node := .scalar .plain (toString word.toNat)

/-- The node of a configuration. -/
def toNode (config : Config) : Yaml.Node :=
  .record <|
    [("multi_select_separator", .ofText config.multiSelectSeparator),
      ("insert_trailing_space", boolNode config.insertTrailingSpace)] ++
      Yaml.Node.optionalField "max_candidates" (config.maxCandidates.map wordNode) ++
      Yaml.Node.optionalField "events_log" (config.eventsLog.map .ofText)

/-- A configuration, unchecked. -/
def ofNode? (node : Yaml.Node) : Option Config := do
  let fields ← node.asRecord?
    ["multi_select_separator", "insert_trailing_space", "max_candidates", "events_log"]
  return {
    multiSelectSeparator := ← Yaml.Node.optional? fields "multi_select_separator"
      RunContext.defaultSeparator Yaml.Node.asText?
    insertTrailingSpace := ←
      Yaml.Node.optional? fields "insert_trailing_space" true Yaml.Node.asBool?
    maxCandidates := ← Yaml.Node.nullable? fields "max_candidates" Yaml.Node.asWord?
    eventsLog := ← Yaml.Node.nullable? fields "events_log" Yaml.Node.asText? }

/-- The document of a configuration. -/
def toYaml (config : Config) : String := Yaml.write config.toNode

/-- The configuration of a document. -/
def ofYaml (text : String) : Except PromptError Config :=
  match (Yaml.read? text).bind ofNode? with
  | some config => config.checked
  | none => .error (.malformed .config)

end MentionPrompt.Config
