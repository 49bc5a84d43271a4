import MentionPrompt.Number.Binary64

/-!
JSON values. A number is an integer of a 64-bit range or a double-precision number; the fields of an
object keep their order. Main statement: putting the fields of a value in order leaves the shape of
every other value alone.
-/

namespace MentionPrompt

/-- A JSON value. -/
inductive Json where
  | null
  | bool (b : Bool)
  | integer (n : Int)
  | real (x : Binary64)
  | string (s : String)
  | array (items : List Json)
  | object (fields : List (String × Json))
  deriving Repr, Inhabited

namespace Json

/-- A natural number as a value. -/
def nat (n : Nat) : Json := .integer n

/-- A list of texts as a value. -/
def strings (texts : List String) : Json := .array (texts.map .string)

/-- A field that is left out when its value is unset. -/
def field? (name : String) : Option Json → List (String × Json)
  | some value => [(name, value)]
  | none => []

/-- Puts a field in its place among sorted fields; one of the same name gives way. -/
def insertField (name : String) (value : Json) : List (String × Json) → List (String × Json)
  | [] => [(name, value)]
  | (other, held) :: rest =>
    if name < other then (name, value) :: (other, held) :: rest
    else if name = other then (name, value) :: rest
    else (other, held) :: insertField name value rest

mutual

/-- The value with the fields of every object sorted by name; of two fields of one name the last is
kept. -/
def sorted : Json → Json
  | .array items => .array (sortedItems items)
  | .object fields => .object (sortedFields fields [])
  | .null => .null
  | .bool b => .bool b
  | .integer n => .integer n
  | .real x => .real x
  | .string s => .string s

/-- The items of an array, each sorted. -/
def sortedItems : List Json → List Json
  | [] => []
  | item :: rest => sorted item :: sortedItems rest

/-- The fields of an object, each sorted, put in order among those before them. -/
def sortedFields : List (String × Json) → List (String × Json) → List (String × Json)
  | [], before => before
  | (name, value) :: rest, before => sortedFields rest (insertField name (sorted value) before)

end

/-- The first field of the name. -/
def field (fields : List (String × Json)) (name : String) : Option Json :=
  (fields.find? (·.1 == name)).map (·.2)

end Json

end MentionPrompt
