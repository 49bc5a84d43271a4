import MentionPrompt.Yaml.Block

/-!
Tokens of a YAML text.

In block context the structure is told by columns: a column beyond the current indent opens a
collection, a lesser one closes those it leaves. That a scalar is a key shows only at the colon after
it, so every place where a key may start is kept in mind, one for each level of brackets, and the
opening of the mapping and the key mark are put in there afterwards. A key lies on one line, within
1024 characters. Text that the rules leave no token for is refused.
-/

namespace MentionPrompt.Yaml

/-- A token. -/
inductive Token where
  | documentStart
  | documentEnd
  | sequenceStart
  | mappingStart
  | blockEnd
  | entry
  | openSequence
  | closeSequence
  | openMapping
  | closeMapping
  | comma
  | key
  | value
  | scalar (style : Style) (text : String)
  deriving DecidableEq, Repr

/-- A place where a key may have started. A required one must turn out to be a key. -/
structure KeyStart where
  required : Bool
  position : Nat
  place : Place
  deriving DecidableEq, Repr

/-- A text that is partly read as tokens, the last token first. The innermost of the key places
belongs to the current level of brackets. -/
structure Scanner where
  rest : List Char
  place : Place := {}
  tokens : List Token := []
  indent : Int := -1
  outerIndents : List Int := []
  keyStart : Option KeyStart := none
  outerKeyStarts : List (Option KeyStart) := []
  keyAllowed : Bool := true

namespace Scanner

/-- The reading is inside brackets. -/
def inFlow (s : Scanner) : Bool := !s.outerKeyStarts.isEmpty

/-- Adds a token. -/
def add (s : Scanner) (token : Token) : Scanner := { s with tokens := token :: s.tokens }

/-- Puts a token in at a position. -/
def insertAt (s : Scanner) (position : Nat) (token : Token) : Scanner :=
  let later := s.tokens.length - position
  { s with tokens := s.tokens.take later ++ token :: s.tokens.drop later }

/-- Passes over characters of the line. -/
def pass (s : Scanner) (count : Nat) : Scanner :=
  { s with rest := s.rest.drop count, place := s.place.skip count }

/-! ### What parts tokens -/

/-- Passes over blanks, comments and line breaks. A tab is a blank unless a key may start there; in
block context a key may start on a new line. -/
def skipGap (inFlow : Bool) :
    List Char → (inComment : Bool) → Place → (keyAllowed : Bool) → List Char × Place × Bool
  | [], _, place, keyAllowed => ([], place, keyAllowed)
  | c :: rest, inComment, place, keyAllowed =>
    if isBreak c then skipGap inFlow rest false place.newline (keyAllowed || !inFlow)
    else if inComment then skipGap inFlow rest true place.next keyAllowed
    else if c == ' ' || (c == '\t' && (inFlow || !keyAllowed)) then
      skipGap inFlow rest false place.next keyAllowed
    else if c == '#' then skipGap inFlow rest true place.next keyAllowed
    else (c :: rest, place, keyAllowed)

/-- The scanner at the next token. -/
def atToken (s : Scanner) : Scanner :=
  let (rest, place, keyAllowed) := skipGap s.inFlow s.rest false s.place s.keyAllowed
  { s with rest, place, keyAllowed }

/-! ### Keys and indents -/

/-- The place is too far back for a key that ends here. -/
def KeyStart.isStale (start : KeyStart) (place : Place) : Bool :=
  start.place.line < place.line || start.place.index + 1024 < place.index

/-- Forgets a place; a required one is missed. -/
def forget? (start : Option KeyStart) : Option (Option KeyStart) :=
  if start.any (·.required) then none else some none

/-- Forgets a place that is too far back. -/
def forgetStale? (place : Place) (start : Option KeyStart) : Option (Option KeyStart) :=
  if start.any (KeyStart.isStale · place) then forget? start else some start

/-- Forgets all places that are too far back. -/
def forgetStaleKeys? (s : Scanner) : Option Scanner := do
  return { s with
    keyStart := ← forgetStale? s.place s.keyStart
    outerKeyStarts := ← s.outerKeyStarts.mapM (forgetStale? s.place) }

/-- Forgets the place of the current level. -/
def forgetKey? (s : Scanner) : Option Scanner := do
  return { s with keyStart := ← forget? s.keyStart }

/-- Keeps the current place in mind, if a key may start here. In block context a key is required
where the column is that of the collection. -/
def rememberKey? (s : Scanner) : Option Scanner :=
  if s.keyAllowed then do
    let s ← s.forgetKey?
    let required := !s.inFlow && s.indent == s.place.column
    return { s with keyStart := some ⟨required, s.tokens.length, s.place⟩ }
  else some s

/-- Opens a collection at a column beyond the indent; its token goes in at the position. -/
def indentTo (s : Scanner) (column position : Nat) (token : Token) : Scanner :=
  if !s.inFlow && s.indent < column then
    { s.insertAt position token with
      indent := column, outerIndents := s.indent :: s.outerIndents }
  else s

/-- Closes the collections indented beyond the column, given their indents from the inmost on. -/
def dedent (column : Int) : List Int → Int → List Token → Int × List Int × List Token
  | outer :: rest, indent, tokens =>
    if column < indent then dedent column rest outer (.blockEnd :: tokens)
    else (indent, outer :: rest, tokens)
  | [], indent, tokens => (indent, [], tokens)

/-- Closes the collections indented beyond the column; inside brackets columns say nothing. -/
def dedentTo (s : Scanner) (column : Int) : Scanner :=
  if s.inFlow then s
  else
    let (indent, outerIndents, tokens) := dedent column s.outerIndents s.indent s.tokens
    { s with indent, outerIndents, tokens }

/-! ### The tokens -/

/-- A line that parts documents. -/
def documentMarker? (s : Scanner) (token : Token) : Option Scanner := do
  let s ← (s.dedentTo (-1)).forgetKey?
  return { (s.add token).pass 3 with keyAllowed := false }

/-- An opening bracket. -/
def openBracket? (s : Scanner) (token : Token) : Option Scanner := do
  let s ← s.rememberKey?
  return { (s.add token).pass 1 with
    keyStart := none, outerKeyStarts := s.keyStart :: s.outerKeyStarts, keyAllowed := true }

/-- A closing bracket. -/
def closeBracket? (s : Scanner) (token : Token) : Option Scanner := do
  let s ← s.forgetKey?
  let s := { (s.add token).pass 1 with keyAllowed := false }
  match s.outerKeyStarts with
  | outer :: rest => return { s with keyStart := outer, outerKeyStarts := rest }
  | [] => return s

/-- A comma. -/
def comma? (s : Scanner) : Option Scanner := do
  return { ((← s.forgetKey?).add .comma).pass 1 with keyAllowed := true }

/-- An indicator that opens a collection at its own column, where a key may start. -/
def indicator? (s : Scanner) (collection token : Token) (keyAllowed : Bool) : Option Scanner :=
  if s.inFlow || s.keyAllowed then do
    let s ← (s.indentTo s.place.column s.tokens.length collection).forgetKey?
    return { (s.add token).pass 1 with keyAllowed }
  else none

/-- A colon: the place in mind was a key, or else a value stands without one. -/
def value? (s : Scanner) : Option Scanner :=
  match s.keyStart with
  | some start =>
    let s := (s.insertAt start.position .key).indentTo start.place.column start.position
      .mappingStart
    some { (s.add .value).pass 1 with keyStart := none, keyAllowed := false }
  | none => s.indicator? .mappingStart .value !s.inFlow

/-- A scalar that was read on. -/
def scalar (s : Scanner) (style : Style) (found : Scalar) : Scanner :=
  { s.add (.scalar style found.text) with
    rest := found.rest, place := found.place, keyAllowed := found.endsLine }

/-- A scalar that may turn out to be a key. -/
def flowScalar? (s : Scanner) (style : Style) (read? : Scanner → Option Scalar) :
    Option Scanner := do
  let s ← s.rememberKey?
  return s.scalar style (← read? s)

/-- A plain scalar. -/
def plainScalar? (s : Scanner) : Option Scanner :=
  s.flowScalar? .plain fun s => readPlain? s.inFlow (s.indent + 1).toNat s.rest s.place [] {}

/-- A block scalar. -/
def blockScalar? (s : Scanner) (style : Style) : Option Scanner := do
  let s ← s.forgetKey?
  return s.scalar style (← readBlock? (style == .folded) s.indent (s.rest.drop 1) s.place.next)

/-- The token at a character. -/
def tokenAt? (s : Scanner) (c : Char) (after : List Char) : Option Scanner :=
  if s.place.column == 0 && c == '%' then none
  else if s.place.column == 0 && marks '-' s.rest then s.documentMarker? .documentStart
  else if s.place.column == 0 && marks '.' s.rest then s.documentMarker? .documentEnd
  else if c == '[' then s.openBracket? .openSequence
  else if c == '{' then s.openBracket? .openMapping
  else if c == ']' then s.closeBracket? .closeSequence
  else if c == '}' then s.closeBracket? .closeMapping
  else if c == ',' then s.comma?
  else if c == '-' && gapNext after then s.indicator? .sequenceStart .entry true
  else if c == '?' && (s.inFlow || gapNext after) then
    s.indicator? .mappingStart .key !s.inFlow
  else if c == ':' && (s.inFlow || gapNext after) then s.value?
  else if c == '|' && !s.inFlow then s.blockScalar? .literal
  else if c == '>' && !s.inFlow then s.blockScalar? .folded
  else if c == '\'' then
    s.flowScalar? .singleQuoted fun s => readSingleQuoted? after s.place.next [] {}
  else if c == '"' then
    s.flowScalar? .doubleQuoted fun s =>
      readDoubleQuoted? (after.length + 1) after s.place.next [] {}
  else if isIndicator c || isSpace c then none
  else s.plainScalar?

/-- The end of the text closes what is open. -/
def finish? (s : Scanner) : Option Scanner := (s.dedentTo (-1)).forgetKey?

/-- Reads on, token by token. The fuel bounds the characters left. -/
def run? : Nat → Scanner → Option Scanner
  | 0, _ => none
  | fuel + 1, s => do
    let s ← s.atToken.forgetStaleKeys?
    match s.rest with
    | [] => s.finish?
    | c :: after => run? fuel (← (s.dedentTo s.place.column).tokenAt? c after)

end Scanner

/-- Characters that may stand in a document at all. -/
def isPermitted (c : Char) : Bool :=
  let n := c.toNat
  c == '\t' || c == '\n' || c == '\r' || n == 0x85 || (0x20 ≤ n && n ≤ 0x7E) ||
    (0xA0 ≤ n && n != 0xFEFF && n != 0xFFFE && n != 0xFFFF)

/-- The tokens of a text; a byte order mark may stand in front. -/
def tokens? (text : String) : Option (List Token) := do
  let chars := match text.toList with
    | '\uFEFF' :: rest => rest
    | chars => chars
  if chars.all isPermitted then
    let rest := unifyBreaks chars
    let s ← Scanner.run? (rest.length + 1) { rest }
    return s.tokens.reverse
  else none

end MentionPrompt.Yaml
