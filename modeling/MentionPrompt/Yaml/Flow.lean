import MentionPrompt.Number.Decimal
import MentionPrompt.Yaml.Node
import MentionPrompt.Yaml.Place

/-!
Plain and quoted scalars, which run on over lines.

Between two words stands a gap: blanks, or line breaks with blanks around them. A gap without a line
break is kept. One line break becomes a space, and more of them lose the first. A backslash at the end
of a line, between double quotes, takes the line break away.
-/

namespace MentionPrompt.Yaml

/-- What stands between two words, each part with its last character first. -/
structure Gap where
  blanks : List Char := []
  breaks : Option (List Char × List Char) := none
  deriving DecidableEq, Repr

namespace Gap

/-- Nothing was read since the last word. -/
def isEmpty (gap : Gap) : Bool := gap.blanks.isEmpty && gap.breaks.isNone

/-- The gap with one more blank; after a line break it does not count. -/
def addBlank (gap : Gap) (c : Char) : Gap :=
  if gap.breaks.isSome then gap else { gap with blanks := c :: gap.blanks }

/-- The gap with one more line break; blanks before the first do not count. -/
def addBreak (gap : Gap) (c : Char) : Gap :=
  match gap.breaks with
  | none => ⟨[], some ([c], [])⟩
  | some (first, more) => { gap with breaks := some (first, c :: more) }

/-- The gap that an escaped line break makes. -/
def escapedBreak : Gap := ⟨[], some ([], [])⟩

/-- Puts the gap after a text, both with the last character first. -/
def join (gap : Gap) (text : List Char) : List Char :=
  match gap.breaks with
  | none => gap.blanks ++ text
  | some (['\n'], []) => ' ' :: text
  | some (['\n'], more) => more ++ text
  | some (first, more) => more ++ first ++ text

end Gap

/-- A scalar that was read, and where the reading stopped. -/
structure Scalar where
  text : String
  rest : List Char
  place : Place
  endsLine : Bool := false

/-! ### Plain scalars -/

/-- A plain scalar inside brackets ends at these. -/
def isFlowMark (c : Char) : Bool := c ∈ [',', '[', ']', '{', '}']

/-- The word of a plain scalar ends here: at a colon before a gap, and inside brackets at a mark. -/
def endsWord (inFlow : Bool) (c : Char) (rest : List Char) : Bool :=
  (c == ':' && gapNext rest) || (inFlow && isFlowMark c)

/-- Inside brackets, a colon may not touch the mark after it. -/
def badColon (inFlow : Bool) (c : Char) (rest : List Char) : Bool :=
  inFlow && c == ':' && (rest.head?.any fun d => isFlowMark d || d == '?')

/-- After a gap, the plain scalar ends here: at a lesser indent, a document mark, or a comment. -/
def endsPlain (inFlow : Bool) (indent : Nat) (place : Place) (s : List Char) : Bool :=
  (!inFlow && place.column < indent) || (place.column == 0 && documentMark s) ||
    s.head? == some '#'

/-- Reads a plain scalar on, after the text and the gap read so far. -/
def readPlain? (inFlow : Bool) (indent : Nat) :
    List Char → Place → List Char → Gap → Option Scalar
  | [], place, text, gap =>
    some ⟨String.ofList text.reverse, [], place, gap.breaks.isSome⟩
  | c :: rest, place, text, gap =>
    if isBreak c then readPlain? inFlow indent rest place.newline text (gap.addBreak c)
    else if isSpace c then
      if gap.breaks.isSome && place.column < indent && c == '\t' then none
      else readPlain? inFlow indent rest place.next text (gap.addBlank c)
    else if !gap.isEmpty && endsPlain inFlow indent place (c :: rest) then
      some ⟨String.ofList text.reverse, c :: rest, place, gap.breaks.isSome⟩
    else if badColon inFlow c rest then none
    else if endsWord inFlow c rest then
      some ⟨String.ofList text.reverse, c :: rest, place, gap.breaks.isSome⟩
    else readPlain? inFlow indent rest place.next (c :: gap.join text) {}

/-! ### Quoted scalars -/

/-- The character that an escape of one letter stands for. -/
def escapeLetters : List (Char × Char) :=
  [('0', '\x00'), ('a', '\x07'), ('b', '\x08'), ('t', '\t'), ('\t', '\t'), ('n', '\n'),
    ('v', '\x0b'), ('f', '\x0c'), ('r', '\r'), ('e', '\x1b'), (' ', ' '), ('"', '"'), ('/', '/'),
    ('\\', '\\'), ('N', '\u0085'), ('_', '\u00a0'), ('L', '\u2028'), ('P', '\u2029')]

/-- The number of digits after an escape by code point. -/
def escapeWidth? : Char → Option Nat
  | 'x' => some 2
  | 'u' => some 4
  | 'U' => some 8
  | _ => none

/-- The character that an escape stands for, and how long the escape is after its backslash. -/
def readEscape? : List Char → Option (Char × Nat)
  | [] => none
  | c :: rest =>
    match escapeLetters.lookup c with
    | some meant => some (meant, 1)
    | none => do
      let width ← escapeWidth? c
      let digits := rest.take width
      let code ← Number.read? 16 digits
      if digits.length = width ∧ code.isValidChar then some (Char.ofNat code, width + 1) else none

/-- Reads a single-quoted scalar on, after its opening quote. -/
def readSingleQuoted? : List Char → Place → List Char → Gap → Option Scalar
  | [], _, _, _ => none
  | c :: rest, place, text, gap =>
    if place.column == 0 && documentMark (c :: rest) then none
    else if isBreak c then readSingleQuoted? rest place.newline text (gap.addBreak c)
    else if isSpace c then readSingleQuoted? rest place.next text (gap.addBlank c)
    else if c == '\'' then
      match rest with
      | '\'' :: rest => readSingleQuoted? rest (place.skip 2) ('\'' :: gap.join text) {}
      | _ => some ⟨String.ofList (gap.join text).reverse, rest, place.next, false⟩
    else readSingleQuoted? rest place.next (c :: gap.join text) {}

/-- Reads a double-quoted scalar on, after its opening quote. The fuel bounds the characters left. -/
def readDoubleQuoted? : Nat → List Char → Place → List Char → Gap → Option Scalar
  | 0, _, _, _, _ => none
  | _, [], _, _, _ => none
  | fuel + 1, c :: rest, place, text, gap =>
    if place.column == 0 && documentMark (c :: rest) then none
    else if isBreak c then readDoubleQuoted? fuel rest place.newline text (gap.addBreak c)
    else if isSpace c then readDoubleQuoted? fuel rest place.next text (gap.addBlank c)
    else if c == '"' then some ⟨String.ofList (gap.join text).reverse, rest, place.next, false⟩
    else if c == '\\' then
      if rest.head?.any isBreak then
        readDoubleQuoted? fuel (rest.drop 1) place.next.newline (gap.join text) .escapedBreak
      else do
        let (meant, length) ← readEscape? rest
        readDoubleQuoted? fuel (rest.drop length) (place.skip (length + 1))
          (meant :: gap.join text) {}
    else readDoubleQuoted? fuel rest place.next (c :: gap.join text) {}

end MentionPrompt.Yaml
