/-!
Sets of characters given by a table of code point ranges, both ends included.

A table is a sorted list of disjoint ranges.
-/

namespace MentionPrompt.Text

/-- A table of code point ranges, both ends included. -/
abbrev CodePointTable := List (Nat × Nat)

/-- The character lies in one of the ranges of the table. -/
def CodePointTable.contains (table : CodePointTable) (c : Char) : Bool :=
  table.any fun range => range.1 ≤ c.toNat && c.toNat ≤ range.2

end MentionPrompt.Text
