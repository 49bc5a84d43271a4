import MentionPrompt.Event.Basic

/-!
The compact form of a value is one line.

Strings and names of fields are escaped, and numbers, brackets, commas and colons hold no line break.
Main statement: an event is written on one line, whatever its texts hold.
-/

namespace MentionPrompt

/-- The text holds no line break. -/
def IsOneLine (text : String) : Prop := '\n' ∉ text.toList

instance (text : String) : Decidable (IsOneLine text) :=
  inferInstanceAs (Decidable ('\n' ∉ text.toList))

namespace IsOneLine

theorem append_iff {a b : String} : IsOneLine (a ++ b) ↔ IsOneLine a ∧ IsOneLine b := by
  simp [IsOneLine]

theorem append {a b : String} (ha : IsOneLine a) (hb : IsOneLine b) : IsOneLine (a ++ b) :=
  append_iff.2 ⟨ha, hb⟩

theorem intercalate {separator : String} (hseparator : IsOneLine separator) :
    ∀ {texts : List String}, (∀ text ∈ texts, IsOneLine text) →
      IsOneLine (separator.intercalate texts)
  | [], _ => by simp [IsOneLine]
  | [text], h => by simpa using h text
  | text :: next :: rest, h => by
    rw [String.intercalate_cons_cons]
    have hrest : IsOneLine (separator.intercalate (next :: rest)) :=
      intercalate hseparator fun other hmem => h other (List.mem_cons_of_mem _ hmem)
    exact ((h text List.mem_cons_self).append hseparator).append hrest

end IsOneLine

namespace Json

/-! ### Numbers -/

theorem newline_notMem_repr (n : Nat) : '\n' ∉ n.repr.toList := by
  intro hmem
  rw [Nat.repr, String.toList_ofList] at hmem
  have hdigit := Nat.isDigit_of_mem_toDigits (by decide) (by decide) hmem
  exact absurd hdigit (by decide)

theorem isOneLine_integer (n : Int) : IsOneLine (toString n) := by
  change IsOneLine n.repr
  rw [Int.repr_eq_if]
  split
  · exact newline_notMem_repr _
  · exact IsOneLine.append (by decide) (newline_notMem_repr _)

theorem isOneLine_decimalText {digits : List Char} (h : '\n' ∉ digits) (power : Int) :
    IsOneLine (decimalText digits power) := by
  have hexponent := isOneLine_integer (digits.length + power - 1)
  have htake : ∀ n, '\n' ∉ digits.take n := fun n hmem => h (List.mem_of_mem_take hmem)
  have hdrop : ∀ n, '\n' ∉ digits.drop n := fun n hmem => h (List.mem_of_mem_drop hmem)
  have hfraction := hdrop 1
  unfold IsOneLine at *
  unfold decimalText
  rw [String.toList_ofList]
  dsimp only
  split
  · simp [h]
  split
  · simp [htake, hdrop]
  split
  · simp [h]
  · split <;> simp_all

theorem isOneLine_realText (x : Binary64) : IsOneLine (realText x) := by
  have htext : ∀ count power, IsOneLine
      (if x.magnitude = 0 then "0.0" else decimalText (toString (count : Nat)).toList power) := by
    intro count power
    split
    · decide
    · exact isOneLine_decimalText (newline_notMem_repr count) power
  unfold realText
  split
  · decide
  · dsimp only
    split
    · exact IsOneLine.append (by decide) (htext _ _)
    · exact htext _ _

/-! ### Values -/

mutual

theorem isOneLine_compact : ∀ value : Json, IsOneLine value.compact
  | .null => by rw [compact]; decide
  | .bool b => by cases b <;> (rw [compact]; decide)
  | .integer n => by rw [compact]; exact isOneLine_integer n
  | .real x => by rw [compact]; exact isOneLine_realText x
  | .string s => by rw [compact]; exact newline_notMem_quote s
  | .array items => by
    rw [compact]
    have hcomma : IsOneLine "," := by decide
    have hitems := hcomma.intercalate (isOneLine_compactItems items)
    exact (IsOneLine.append (by decide) hitems).append (by decide)
  | .object fields => by
    rw [compact]
    have hcomma : IsOneLine "," := by decide
    have hfields := hcomma.intercalate (isOneLine_compactFields fields)
    exact (IsOneLine.append (by decide) hfields).append (by decide)

theorem isOneLine_compactItems : ∀ items : List Json, ∀ text ∈ compactItems items, IsOneLine text
  | [] => by simp [compactItems]
  | item :: rest => by
    rw [compactItems, List.forall_mem_cons]
    exact ⟨isOneLine_compact item, isOneLine_compactItems rest⟩

theorem isOneLine_compactFields :
    ∀ fields : List (String × Json), ∀ text ∈ compactFields fields, IsOneLine text
  | [] => by simp [compactFields]
  | (name, value) :: rest => by
    rw [compactFields, List.forall_mem_cons]
    have hname : IsOneLine (quote name ++ ":") :=
      IsOneLine.append (newline_notMem_quote name) (by decide)
    exact ⟨hname.append (isOneLine_compact value), isOneLine_compactFields rest⟩

end

end Json

/-- An event is written on one line. -/
theorem Event.isOneLine_line (event : Event) : IsOneLine event.line :=
  Json.isOneLine_compact event.toJson

end MentionPrompt
