import MentionPrompt.Json.Value

/-!
Reading typed data out of JSON values.

Nothing is converted: a number is no text, and a double is no integer. A record is an object with the
record's fields, others being ignored, or an array of its fields in their order, of which fields at
the end may be missing but none may be added. A name of an enumeration is a text, or an object whose
only field has that name and is null.
-/

namespace MentionPrompt.Json

/-- A text. -/
def asString? : Json → Option String
  | .string s => some s
  | _ => none

/-- A truth value. -/
def asBool? : Json → Option Bool
  | .bool b => some b
  | _ => none

/-- A natural number. -/
def asNat? : Json → Option Nat
  | .integer n => if 0 ≤ n then some n.toNat else none
  | _ => none

/-- A number that a 64-bit word holds. -/
def asWord? (value : Json) : Option UInt64 := value.asNat?.bind Number.toWord?

/-- A list, each item read. -/
def asList? {α : Type} (read : Json → Option α) : Json → Option (List α)
  | .array items => items.mapM read
  | _ => none

/-- A value that may be null. -/
def asNullable? {α : Type} (read : Json → Option α) : Json → Option (Option α)
  | .null => some none
  | value => (read value).map some

/-- The name of an enumeration's value. -/
def asName? : Json → Option String
  | .string name => some name
  | .object [(name, .null)] => some name
  | _ => none

/-- The fields of a record, in either of its forms. -/
def asRecord? (names : List String) : Json → Option (List (String × Json))
  | .object fields => some fields
  | .array items => if items.length ≤ names.length then some (names.zip items) else none
  | _ => none

/-- A field that must be there. -/
def required? {α : Type} (fields : List (String × Json)) (name : String) (read : Json → Option α) :
    Option α :=
  (field fields name).bind read

/-- A field that has a default. -/
def optional? {α : Type} (fields : List (String × Json)) (name : String) (default : α)
    (read : Json → Option α) : Option α :=
  match field fields name with
  | some value => read value
  | none => some default

/-- A field that may be missing or null. -/
def nullable? {α : Type} (fields : List (String × Json)) (name : String) (read : Json → Option α) :
    Option (Option α) :=
  optional? fields name none (asNullable? read)

theorem asNat?_nat (n : Nat) : (nat n).asNat? = some n := by
  rw [nat, asNat?, if_pos (Int.natCast_nonneg n), Int.toNat_natCast]

/-- A list is read back, if each of its items is. -/
theorem asList?_array_map {α : Type} {write : α → Json} {read : Json → Option α}
    (h : ∀ item, read (write item) = some item) (items : List α) :
    asList? read (.array (items.map write)) = some items := by
  rw [asList?, List.mapM_map, show read ∘ write = some from funext h]
  exact List.mapM_pure.trans (congrArg some items.map_id)

theorem asList?_strings (texts : List String) : asList? asString? (strings texts) = some texts := by
  have htext : ∀ text, asString? (string text) = some text := fun _ => rfl
  exact asList?_array_map htext texts

end MentionPrompt.Json
