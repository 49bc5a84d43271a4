import MentionPrompt.Yaml.Document
import MentionPrompt.Yaml.Plain

/-!
Reading typed data out of YAML nodes.

Where a text is asked for, any scalar is one as it is written. Truth values and numbers are plain, and
so is what stands for an unset value. A list or a mapping may be left empty. The keys of a mapping are
scalars; of a record's known keys none may be repeated, and unknown ones are ignored.
-/

namespace MentionPrompt.Yaml.Node

/-- A text: any scalar. -/
def asText? : Node → Option String
  | .scalar _ text => some text
  | _ => none

/-- A truth value. -/
def asBool? : Node → Option Bool
  | .scalar .plain text => readBool? text
  | _ => none

/-- A number that a 64-bit word holds. -/
def asWord? : Node → Option UInt64
  | .scalar .plain text => (readUnsigned? text.toList).bind Number.toWord?
  | _ => none

/-- A value that may be unset. -/
def asOptional? {α : Type} (read : Node → Option α) (node : Node) : Option (Option α) :=
  match node with
  | .scalar .plain text => if isNull text then some none else (read node).map some
  | _ => (read node).map some

/-- The items of a sequence; an empty value has none. -/
def asItems? : Node → Option (List Node)
  | .sequence items => some items
  | .scalar .plain "" => some []
  | _ => none

/-- A list, each item read. -/
def asList? {α : Type} (read : Node → Option α) (node : Node) : Option (List α) :=
  node.asItems?.bind fun items => items.mapM read

/-- The entries of a mapping, by the texts of their keys; an empty value has none. -/
def asEntries? : Node → Option (List (String × Node))
  | .mapping entries => entries.mapM fun (key, value) => return (← key.asText?, value)
  | .scalar .plain "" => some []
  | _ => none

/-- The fields of a record, given the names that it knows. -/
def asRecord? (names : List String) (node : Node) : Option (List (String × Node)) := do
  let fields := (← node.asEntries?).filter fun (name, _) => names.contains name
  if (fields.map (·.1)).Nodup then return fields else none

/-- The value of a field. -/
def field? (fields : List (String × Node)) (name : String) : Option Node :=
  (fields.find? (·.1 == name)).map (·.2)

/-- A field that must be there. -/
def required? {α : Type} (fields : List (String × Node)) (name : String)
    (read : Node → Option α) : Option α :=
  (field? fields name).bind read

/-- A field that has a default. -/
def optional? {α : Type} (fields : List (String × Node)) (name : String) (default : α)
    (read : Node → Option α) : Option α :=
  match field? fields name with
  | some node => read node
  | none => some default

/-- A field that may be missing or unset. -/
def nullable? {α : Type} (fields : List (String × Node)) (name : String)
    (read : Node → Option α) : Option (Option α) :=
  optional? fields name none (asOptional? read)

end MentionPrompt.Yaml.Node
