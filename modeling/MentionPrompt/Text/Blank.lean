import MentionPrompt.Text.CodePoint

/-!
White space of every script, and trimming. A character is blank when it has the Unicode property
White_Space; trimming removes the blank characters at both ends and no other.
-/

namespace MentionPrompt.Text

/-- The ranges of the property White_Space. -/
def blankTable : CodePointTable :=
  [(0x9, 0xD), (0x20, 0x20), (0x85, 0x85), (0xA0, 0xA0), (0x1680, 0x1680), (0x2000, 0x200A),
   (0x2028, 0x2029), (0x202F, 0x202F), (0x205F, 0x205F), (0x3000, 0x3000)]

/-- The character is white space. -/
def isBlank (c : Char) : Bool := blankTable.contains c

/-- The text without the blank characters at its start. -/
def trimStart (text : String) : String := String.ofList (text.toList.dropWhile isBlank)

/-- The text without the blank characters at its end. -/
def trimEnd (text : String) : String :=
  String.ofList (text.toList.reverse.dropWhile isBlank).reverse

/-- The text without the blank characters at its two ends. -/
def trim (text : String) : String := trimEnd (trimStart text)

theorem trim_eq_self_of_ends {first last : Char} (hfirst : isBlank first = false)
    (hlast : isBlank last = false) (middle : List Char) :
    trim (String.ofList (first :: middle ++ [last])) = String.ofList (first :: middle ++ [last]) := by
  simp [trim, trimStart, trimEnd, hfirst, hlast]

/-- The text holds nothing but white space. -/
def isBlankText (text : String) : Bool := text.toList.all isBlank

end MentionPrompt.Text
