/-!
Nodes of a YAML document: scalars with the style they are written in, sequences and mappings.
-/

namespace MentionPrompt.Yaml

/-- How a scalar is written. -/
inductive Style where | plain | singleQuoted | doubleQuoted | literal | folded
  deriving DecidableEq, Repr

/-- A node of a document. -/
inductive Node where
  | scalar (style : Style) (text : String)
  | sequence (items : List Node)
  | mapping (entries : List (Node × Node))
  deriving Repr, Inhabited

/-- The node that stands where nothing is written. -/
def Node.empty : Node := .scalar .plain ""

/-- The character ends a line, once the line breaks of a text are made one. -/
def isBreak (c : Char) : Bool := c == '\n' || c == '\u2028' || c == '\u2029'

/-- The character parts words on a line. -/
def isSpace (c : Char) : Bool := c == ' ' || c == '\t'

/-- A space, a line break, or the end of the text comes next. -/
def gapNext : List Char → Bool
  | [] => true
  | c :: _ => isSpace c || isBreak c

/-- Characters that start no plain scalar, whatever follows. -/
def isIndicator (c : Char) : Bool :=
  c ∈ [',', '[', ']', '{', '}', '#', '&', '*', '!', '|', '>', '\'', '"', '%', '@', '\x60']

/-- Three times the character, and then a gap. -/
def marks (mark : Char) : List Char → Bool
  | a :: b :: c :: rest => a == mark && b == mark && c == mark && gapNext rest
  | _ => false

/-- A line that parts documents comes next. -/
def documentMark (s : List Char) : Bool := marks '-' s || marks '.' s

/-- Makes each line break of a text one line feed; only the line and paragraph separators stay. -/
def unifyBreaks : List Char → List Char
  | '\r' :: '\n' :: rest => '\n' :: unifyBreaks rest
  | '\r' :: rest => '\n' :: unifyBreaks rest
  | '\u0085' :: rest => '\n' :: unifyBreaks rest
  | c :: rest => c :: unifyBreaks rest
  | [] => []

end MentionPrompt.Yaml
