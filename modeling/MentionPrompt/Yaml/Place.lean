/-!
Places in a text: the line, the column in it, and the count of all characters before.
-/

namespace MentionPrompt.Yaml

/-- A place in a text. -/
structure Place where
  line : Nat := 0
  column : Nat := 0
  index : Nat := 0
  deriving DecidableEq, Repr

namespace Place

/-- The place after a character that ends no line. -/
def next (place : Place) : Place :=
  { place with column := place.column + 1, index := place.index + 1 }

/-- The place that many characters on in the line. -/
def skip (place : Place) (count : Nat) : Place :=
  { place with column := place.column + count, index := place.index + count }

/-- The place after a line break. -/
def newline (place : Place) : Place :=
  { line := place.line + 1, column := 0, index := place.index + 1 }

end Place

end MentionPrompt.Yaml
