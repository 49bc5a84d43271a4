/-!
Identifiers: the names that can stand in a reference token. An identifier is a non-empty run of
ASCII letters, digits, `_` and `-`.
-/

namespace MentionPrompt

/-- The character may stand in an identifier. -/
def isIdentifierChar (c : Char) : Bool := c.isAlphanum || c == '_' || c == '-'

/-- The text is an identifier. -/
def isIdentifier (text : String) : Bool := !text.toList.isEmpty && text.toList.all isIdentifierChar

theorem isIdentifier_iff {text : String} :
    isIdentifier text = true ↔ text.toList ≠ [] ∧ ∀ c ∈ text.toList, isIdentifierChar c = true := by
  simp [isIdentifier]

end MentionPrompt
