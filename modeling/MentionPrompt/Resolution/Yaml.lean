import MentionPrompt.Error
import MentionPrompt.Yaml.Shape

/-!
Answers as YAML documents. An answer is a text or a list of texts; a plain scalar that stands for a
truth value, a number or nothing is none.
-/

namespace MentionPrompt

/-- A text of an answer. -/
def Answer.valueOfNode? : Yaml.Node → Option String
  | .scalar .plain text => if Yaml.isText text then some text else none
  | .scalar _ text => some text
  | _ => none

/-- An answer. -/
def Answer.ofNode? : Yaml.Node → Option Answer
  | .sequence items => (items.mapM Answer.valueOfNode?).map .multiple
  | node => (Answer.valueOfNode? node).map .single

/-- Answers by step name; of two for one name the last counts. -/
def Answers.ofNode? (node : Yaml.Node) : Option Answers := do
  let entries ← node.asEntries?
  return .ofList (← entries.mapM fun (name, node) => return (name, ← Answer.ofNode? node))

/-- The answers of a document's node. -/
def Answers.ofDocumentNode? (node : Yaml.Node) : Option Answers := do
  let fields ← node.asRecord? ["answers"]
  Yaml.Node.optional? fields "answers" {} Answers.ofNode?

/-- The answers of a document. -/
def Answers.ofYaml (text : String) : Except PromptError Answers :=
  match (Yaml.read? text).bind Answers.ofDocumentNode? with
  | some answers => .ok answers
  | none => .error (.malformed .answers)

end MentionPrompt
