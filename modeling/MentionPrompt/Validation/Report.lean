import MentionPrompt.Segment.Basic

/-!
The report of a validation: display names that several media share, and references that point at
nothing. A report without findings is clean, and only a clean one has no message.
-/

namespace MentionPrompt

/-- A display name and the ids of all media that carry it. -/
structure NameClash where
  displayName : String
  mediaIds : List String
  deriving DecidableEq, Repr

/-- What a validation found. -/
structure Report where
  nameClashes : List NameClash := []
  dangling : List Reference := []
  deriving DecidableEq, Repr

/-- The clash as a line of the message. -/
def NameClash.line (clash : NameClash) : String :=
  "  " ++ clash.displayName ++ ": " ++ ", ".intercalate clash.mediaIds ++ "\n"

/-- The dangling reference as a line of the message. -/
def Reference.line (reference : Reference) : String :=
  "  segment " ++ toString reference.index ++ ": " ++ reference.kind.name ++ " '" ++
    reference.identifier ++ "'\n"

namespace Report

/-- Nothing was found. -/
def isClean (report : Report) : Bool := report.nameClashes.isEmpty && report.dangling.isEmpty

/-- A heading over lines; nothing at all without lines. -/
def part (heading : String) (lines : List String) : List String :=
  if lines.isEmpty then [] else [heading ++ "\n" ++ String.join lines]

/-- The findings for the user, the two sections parted by an empty line. -/
def message (report : Report) : String :=
  "\n".intercalate <|
    part "Duplicate display names" (report.nameClashes.map NameClash.line) ++
      part "Dangling references" (report.dangling.map Reference.line)

end Report

end MentionPrompt
