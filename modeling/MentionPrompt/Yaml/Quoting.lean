import MentionPrompt.Yaml.Flow
import MentionPrompt.Yaml.Plain

/-!
How a text is written as a scalar.

A text of several lines is a literal block. Any other is plain, unless it would then be read as
something else; it is put between single quotes then. Characters that are not printed, and a space
before a line break, need double quotes, where they are escaped.
-/

namespace MentionPrompt.Yaml

/-- The character can be shown as it is. -/
def isPrintable (c : Char) : Bool :=
  let n := c.toNat
  c == '\n' || (0x20 ≤ n && n ≤ 0x7E) ||
    (0xA0 ≤ n && n != 0xFEFF && n != 0xFFFE && n != 0xFFFF)

/-- Somewhere in the text a character of the second class follows one of the first. -/
def hasPair (first second : Char → Bool) (s : List Char) : Bool :=
  (s.zip s.tail).any fun (a, b) => first a && second b

/-- The first character is taken for an indicator. -/
def startsIndicator : List Char → Bool
  | [] => false
  | c :: rest => isIndicator c || (c ∈ ['-', '?', ':'] && gapNext rest)

/-- After the first character, a colon before a gap or a comment after one ends a plain scalar. -/
def endsEarly : List Char → Bool
  | [] => false
  | c :: rest =>
    (rest.head? == some ':' && gapNext (rest.drop 1)) ||
      (gapNext [c] && rest.head? == some '#') || endsEarly rest

/-- As a plain scalar, the text would be read back as it is. -/
def looksPlain (s : List Char) : Bool :=
  !startsIndicator s && !endsEarly s && !("---".toList.isPrefixOf s) && !("...".toList.isPrefixOf s) &&
    !s.any isBreak && s.head? != some ' ' && s.getLast? != some ' '

/-- Only escapes can show the text: it holds characters that are not printed, or a space before a
line break. -/
def needsEscapes (s : List Char) : Bool :=
  !s.all isPrintable || hasPair (· == ' ') isBreak s

/-- A line of the text, but not the first, starts with a space. -/
def hasIndentedLine (s : List Char) : Bool := hasPair isBreak (· == ' ') s

/-- The style in which a text is written. -/
def styleOf (text : String) : Style :=
  let s := text.toList
  if needsEscapes s then .doubleQuoted
  else if s.contains '\n' then
    if s.getLast? == some ' ' then .doubleQuoted else .literal
  else if isText text && !hasLeadingZero s && looksPlain s then .plain
  else if hasIndentedLine s then .doubleQuoted
  else .singleQuoted

/-- The node of a text. -/
def Node.ofText (text : String) : Node := .scalar (styleOf text) text

end MentionPrompt.Yaml
