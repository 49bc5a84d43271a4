import MentionPrompt.Yaml.Flow

/-!
Block scalars: texts that are set off by their indent.

The header says whether line breaks are kept or folded, which line breaks at the end stay, and
possibly how deep the text is indented; else its first line with content decides. Folding turns a line
break between two lines into a space, unless one of them starts with a blank.
-/

namespace MentionPrompt.Yaml

/-- What becomes of the line breaks at the end of a block. -/
inductive Chomping where | strip | clip | keep
  deriving DecidableEq, Repr

/-- The header of a block scalar. -/
structure BlockHeader where
  chomping : Chomping := .clip
  depth : Nat := 0
  deriving DecidableEq, Repr

/-- The sign for the line breaks at the end. -/
def chomping? : Char → Option Chomping
  | '-' => some .strip
  | '+' => some .keep
  | _ => none

/-- The digit for the depth of the text. -/
def depth? (c : Char) : Option Nat := Number.digit? 10 c

/-- Reads the signs of the header, in either order; a depth of zero is refused. -/
def readHeader? (s : List Char) : Option (BlockHeader × List Char) :=
  match s with
  | [] => some ({}, [])
  | c :: rest =>
    match chomping? c, depth? c with
    | some chomping, _ =>
      match rest.head?.bind depth? with
      | some 0 => none
      | some depth => some ({ chomping, depth }, rest.drop 1)
      | none => some ({ chomping }, rest)
    | none, some 0 => none
    | none, some depth =>
      match rest.head?.bind chomping? with
      | some chomping => some ({ chomping, depth }, rest.drop 1)
      | none => some ({ depth }, rest)
    | none, none => some ({}, s)

/-- What follows the header up to the end of its line: blanks, and a comment. -/
def endHeader? (s : List Char) : Option (List Char) :=
  match s.dropWhile isSpace with
  | [] => some []
  | '#' :: rest => some ((rest.dropWhile (!isBreak ·)).drop 1)
  | c :: rest => if isBreak c then some rest else none

/-- Empty lines and indents, up to the next content or to the given indent; without one, up to any
content. -/
structure Margin where
  breaks : List Char
  deepest : Nat
  rest : List Char
  place : Place

/-- Reads a margin; tabs do not indent. -/
def readMargin? (indent : Nat) : List Char → Place → List Char → Nat → Option Margin
  | [], place, breaks, deepest => some ⟨breaks, deepest, [], place⟩
  | c :: rest, place, breaks, deepest =>
    let open_ := indent == 0 || place.column < indent
    if c == ' ' && open_ then
      readMargin? indent rest place.next breaks (max deepest place.next.column)
    else if c == '\t' && open_ then none
    else if isBreak c then readMargin? indent rest place.newline (c :: breaks) deepest
    else some ⟨breaks, deepest, c :: rest, place⟩

/-- The part of a block that was read, the last character first: the text, the line break after it,
and the empty lines after that. -/
structure BlockText where
  text : List Char := []
  leading : List Char := []
  trailing : List Char := []
  afterBlank : Bool := false

namespace BlockText

/-- Sets the line break and the empty lines between the text and a new line. -/
def joined (block : BlockText) (folds startsBlank : Bool) : List Char :=
  if folds && block.leading == ['\n'] && !block.afterBlank && !startsBlank then
    block.trailing ++ (if block.trailing.isEmpty then ' ' :: block.text else block.text)
  else block.trailing ++ block.leading ++ block.text

/-- The text with the line breaks at its end that stay. -/
def chomp (block : BlockText) : Chomping → List Char
  | .strip => block.text
  | .clip => block.leading ++ block.text
  | .keep => block.trailing ++ block.leading ++ block.text

end BlockText

/-- Reads the lines of a block at their indent. The fuel bounds the lines left. -/
def readLines? (folds : Bool) (indent : Nat) :
    Nat → BlockText → List Char → Place → Option (BlockText × List Char × Place)
  | 0, _, _, _ => none
  | fuel + 1, block, s, place =>
    if s.isEmpty || place.column != indent then some (block, s, place)
    else do
      let startsBlank := s.head?.any isSpace
      let content := s.takeWhile (!isBreak ·)
      let after := s.dropWhile (!isBreak ·)
      let text := content.reverse ++ block.joined folds startsBlank
      let place := place.skip content.length
      let (leading, place) := match after with
        | c :: _ => ([c], place.newline)
        | [] => ([], place)
      let margin ← readMargin? indent (after.drop 1) place [] 0
      let block : BlockText :=
        { text, leading, trailing := margin.breaks, afterBlank := startsBlank }
      readLines? folds indent fuel block margin.rest margin.place

/-- Reads a block scalar after its first sign, inside a collection of the given indent. -/
def readBlock? (folds : Bool) (outer : Int) (s : List Char) (place : Place) : Option Scalar := do
  let (header, afterSigns) ← readHeader? s
  let body ← endHeader? afterSigns
  let start : Place :=
    { line := place.line + 1, column := 0, index := place.index + (s.length - body.length) }
  let given := if header.depth = 0 then 0 else (max outer 0).toNat + header.depth
  let margin ← readMargin? given body start [] 0
  let indent := if given = 0 then max margin.deepest (max (outer + 1) 1).toNat else given
  let (block, rest, place) ←
    readLines? folds indent (s.length + 1) { trailing := margin.breaks } margin.rest margin.place
  return ⟨String.ofList (block.chomp header.chomping).reverse, rest, place, true⟩

end MentionPrompt.Yaml
