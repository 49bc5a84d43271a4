/-!
Substring search. Main statement: the search finds the needle exactly when the text is the needle
with something in front and something behind.
-/

namespace MentionPrompt.Text

/-- The needle occurs in the text, as one stretch. -/
def contains (needle : List Char) : List Char → Bool
  | [] => needle.isEmpty
  | c :: rest => needle.isPrefixOf (c :: rest) || contains needle rest

theorem contains_iff_isInfix {needle text : List Char} :
    contains needle text = true ↔ needle <:+: text := by
  induction text with
  | nil => simp [contains]
  | cons c rest ih => simp [contains, ih, List.infix_cons_iff]

end MentionPrompt.Text
