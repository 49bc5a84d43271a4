import MentionPrompt.Yaml.Quoting

/-!
Writing nodes as YAML.

Each entry of a mapping and each item of a sequence starts a line. A mapping inside a mapping is
indented by two more columns; a sequence stands at the indent of its mapping, and the parts of an item
are indented beyond its dash. The lines of a literal block are indented beyond its mapping, and empty
ones stay empty. No line is broken for its length.
-/

namespace MentionPrompt.Yaml

/-- So many spaces. -/
def spaces (count : Nat) : List Char := List.replicate count ' '

/-! ### Scalars -/

/-- The letter that stands for the character after a backslash. -/
def escapeLetter? (c : Char) : Option Char := (escapeLetters.find? (·.2 == c)).map (·.1)

/-- The number in hexadecimal with capital letters. -/
def capitalHex (width n : Nat) : List Char := (Number.hex width n).map Char.toUpper

/-- A character between double quotes. -/
def escapeChar (c : Char) : List Char :=
  if isPrintable c && !isBreak c && c != '"' && c != '\\' then [c]
  else match escapeLetter? c with
    | some letter => ['\\', letter]
    | none =>
      let n := c.toNat
      if n ≤ 0xFF then '\\' :: 'x' :: capitalHex 2 n
      else if n ≤ 0xFFFF then '\\' :: 'u' :: capitalHex 4 n
      else '\\' :: 'U' :: capitalHex 8 n

/-- A text between double quotes. -/
def doubleQuoted (s : List Char) : List Char := '"' :: s.flatMap escapeChar ++ ['"']

/-- Puts the indent of a scalar in where a line of it starts with content; `atStart` says that the next
character starts a line. -/
def indentLines (indent : Nat) : (atStart : Bool) → List Char → List Char
  | _, [] => []
  | atStart, c :: rest =>
    if isBreak c then c :: indentLines indent true rest
    else (if atStart then spaces indent else []) ++ c :: indentLines indent false rest

/-- A text between single quotes: a quote is doubled, and lines are indented. -/
def singleQuoted (indent : Nat) (s : List Char) : List Char :=
  let doubled := s.flatMap fun c => if c = '\'' then ['\'', '\''] else [c]
  '\'' :: indentLines indent false (doubled ++ ['\''])

/-- The sign for the line breaks at the end of a literal block: whether there is none, one, or more
(a text that is all line breaks has more). -/
def chompingSign (s : List Char) : List Char :=
  match s.reverse with
  | [] => ['-']
  | c :: before =>
    if !isBreak c then ['-'] else if before.head?.all isBreak then ['+'] else []

/-- The header of a literal block; where the text starts with a space or a line break it says how deep
the text is indented. -/
def literalHeader (s : List Char) : List Char :=
  let depth := if s.head?.any fun c => c == ' ' || isBreak c then ['2'] else []
  '|' :: depth ++ chompingSign s

/-- A scalar with its lines indented, and whether it ends its last line. -/
def scalarText (indent : Nat) (style : Style) (text : String) : List Char × Bool :=
  let s := text.toList
  match style with
  | .plain => (s, false)
  | .singleQuoted => (singleQuoted indent s, false)
  | .doubleQuoted => (doubleQuoted s, false)
  | .literal | .folded =>
    (literalHeader s ++ '\n' :: indentLines indent true s, s.getLast?.any isBreak)

/-- A scalar after a blank, up to the end of its last line. -/
def scalarLines (indent : Nat) (style : Style) (text : String) : List Char :=
  let (written, ended) := scalarText indent style text
  ' ' :: written ++ if ended then [] else ['\n']

/-! ### Collections -/

mutual

/-- What follows the colon of an entry, in a mapping at the indent. -/
def valueText (indent : Nat) : Node → List Char
  | .scalar style text => scalarLines (indent + 2) style text
  | .sequence [] => " []\n".toList
  | .sequence items => '\n' :: itemsText indent (spaces indent) items
  | .mapping [] => " \x7b\x7d\n".toList
  | .mapping entries => '\n' :: entriesText (indent + 2) (spaces (indent + 2)) entries

/-- What follows the dash of an item, in a sequence at the indent. -/
def itemText (indent : Nat) : Node → List Char
  | .scalar style text => scalarLines (indent + 2) style text
  | .sequence [] => " []\n".toList
  | .sequence items => ' ' :: itemsText (indent + 2) [] items
  | .mapping [] => " \x7b\x7d\n".toList
  | .mapping entries => ' ' :: entriesText (indent + 2) [] entries

/-- The items of a sequence at the indent; the first has its own lead. -/
def itemsText (indent : Nat) (lead : List Char) : List Node → List Char
  | [] => []
  | item :: rest =>
    lead ++ '-' :: itemText indent item ++ itemsText indent (spaces indent) rest

/-- The entries of a mapping at the indent; the first has its own lead. -/
def entriesText (indent : Nat) (lead : List Char) : List (Node × Node) → List Char
  | [] => []
  | (key, value) :: rest =>
    lead ++ keyText key ++ ':' :: valueText indent value ++
      entriesText indent (spaces indent) rest

/-- A key; it is a scalar on one line. -/
def keyText : Node → List Char
  | .scalar style text => (scalarText 0 style text).1
  | _ => []

end

/-- The document of a node. -/
def write (node : Node) : String :=
  String.ofList <|
    match node with
    | .mapping (entry :: entries) => entriesText 0 [] (entry :: entries)
    | .sequence (item :: items) => itemsText 0 [] (item :: items)
    | node => (valueText 0 node).drop 1

/-- The node of a record; each field has a plain name. -/
def Node.record (fields : List (String × Node)) : Node :=
  .mapping (fields.map fun (name, value) => (.scalar .plain name, value))

/-- A field that is left out when its value is unset. -/
def Node.optionalField (name : String) : Option Node → List (String × Node)
  | some value => [(name, value)]
  | none => []

end MentionPrompt.Yaml
