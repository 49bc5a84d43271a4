import MentionPrompt.Json.Value

/-!
Reading JSON text.

The reader takes one value and gives the rest; a document is one value with nothing but blanks around
it. A number without fraction and exponent is an integer as long as a 64-bit word, or for negative
ones a signed word, holds it; any other is a double. The depth of nesting is bounded by the length of
the text, which serves as fuel.
-/

namespace MentionPrompt.Json

/-- The blanks that may stand between the parts of a document. -/
def isBlank (c : Char) : Bool := c == ' ' || c == '\t' || c == '\n' || c == '\r'

/-- The text without the blanks at its start. -/
def skipBlanks (s : List Char) : List Char := s.dropWhile isBlank

/-- The four hexadecimal digits of an escape. -/
def readUnit? : List Char → Option (Nat × List Char)
  | a :: b :: c :: d :: rest => do return (← Number.read? 16 [a, b, c, d], rest)
  | _ => none

/-- The character that an escape with four digits stands for; two escapes may make up one character
beyond the first plane. -/
def readEscapedUnit? (s : List Char) : Option (Char × List Char) := do
  let (unit, rest) ← readUnit? s
  if 0xD800 ≤ unit ∧ unit < 0xDC00 then
    match rest with
    | '\\' :: 'u' :: rest =>
      let (low, rest) ← readUnit? rest
      if 0xDC00 ≤ low ∧ low < 0xE000 then
        return (Char.ofNat (0x10000 + (unit - 0xD800) * 0x400 + (low - 0xDC00)), rest)
      else none
    | _ => none
  else if 0xDC00 ≤ unit ∧ unit < 0xE000 then none
  else return (Char.ofNat unit, rest)

/-- The character after a backslash. -/
def readEscape? : List Char → Option (Char × List Char)
  | '"' :: rest => some ('"', rest)
  | '\\' :: rest => some ('\\', rest)
  | '/' :: rest => some ('/', rest)
  | 'b' :: rest => some ('\x08', rest)
  | 'f' :: rest => some ('\x0c', rest)
  | 'n' :: rest => some ('\n', rest)
  | 'r' :: rest => some ('\r', rest)
  | 't' :: rest => some ('\t', rest)
  | 'u' :: rest => readEscapedUnit? rest
  | _ => none

/-- The characters up to the closing quote, added in reverse to those before them. -/
def readChars? : Nat → List Char → List Char → Option (String × List Char)
  | 0, _, _ => none
  | fuel + 1, before, s =>
    match s with
    | [] => none
    | '"' :: rest => some (String.ofList before.reverse, rest)
    | '\\' :: rest => do
      let (c, rest) ← readEscape? rest
      readChars? fuel (c :: before) rest
    | c :: rest => if c.toNat < 0x20 then none else readChars? fuel (c :: before) rest

/-- The string after its opening quote. -/
def readString? (s : List Char) : Option (String × List Char) := readChars? (s.length + 1) [] s

/-- Takes digits as long as the significand stays a word; gives how many were taken. -/
def takeDigits : List Char → Nat → Nat → Nat × Nat × List Char
  | [], significand, taken => (significand, taken, [])
  | c :: rest, significand, taken =>
    match Number.digit? 10 c with
    | some digit =>
      let next := significand * 10 + digit
      if next < Number.wordLimit then takeDigits rest next (taken + 1)
      else (significand, taken, c :: rest)
    | none => (significand, taken, c :: rest)

/-- The exponent after its letter: its value, and the rest. -/
def readExponent? (s : List Char) : Option (Int × List Char) := do
  let (negative, s) := match s with
    | '+' :: rest => (false, rest)
    | '-' :: rest => (true, rest)
    | rest => (false, rest)
  let digits := s.takeWhile Char.isDigit
  let value ← Number.read? 10 digits
  return (if negative then -value else value, s.dropWhile Char.isDigit)

/-- The number whose integer digits are given; `skipped` counts those that no longer fitted. -/
def readFraction? (negative : Bool) (significand skipped : Nat) (s : List Char) :
    Option (Json × List Char) := do
  let (significand, scale, s) ← match s with
    | '.' :: rest =>
      let (more, taken, after) := takeDigits rest significand 0
      let beyond := after.takeWhile Char.isDigit
      if taken + beyond.length = 0 then none
      else some (more, taken, after.dropWhile Char.isDigit)
    | _ => some (significand, 0, s)
  let (exponent, s) ← match s with
    | 'e' :: rest => readExponent? rest
    | 'E' :: rest => readExponent? rest
    | _ => some (0, s)
  let power := exponent + skipped - scale
  if significand = 0 then return (.real (Binary64.ofMagnitude negative 0), s)
  else if power < -2000 then return (.real (Binary64.ofMagnitude negative 0), s)
  else if 2000 < power then none
  else return (.real (← Binary64.ofDecimal? negative significand power), s)

/-- No fraction and no exponent follows. -/
def isWhole : List Char → Bool
  | '.' :: _ => false
  | 'e' :: _ => false
  | 'E' :: _ => false
  | _ => true

/-- The number after its sign. -/
def readNumber? (negative : Bool) (s : List Char) : Option (Json × List Char) :=
  let digits := s.takeWhile Char.isDigit
  let rest := s.dropWhile Char.isDigit
  match digits with
  | [] => none
  | '0' :: _ :: _ => none
  | _ =>
    let (significand, taken, beyond) := takeDigits digits 0 0
    let whole := isWhole rest && beyond.isEmpty
    if whole && !negative then some (.integer significand, rest)
    else if whole && significand != 0 && significand ≤ Nat.pow 2 63 then
      some (.integer (-significand), rest)
    else readFraction? negative significand (digits.length - taken) rest

mutual

/-- A value at the start of the text. -/
def readValue? : Nat → List Char → Option (Json × List Char)
  | 0, _ => none
  | fuel + 1, s =>
    match skipBlanks s with
    | 'n' :: 'u' :: 'l' :: 'l' :: rest => some (.null, rest)
    | 't' :: 'r' :: 'u' :: 'e' :: rest => some (.bool true, rest)
    | 'f' :: 'a' :: 'l' :: 's' :: 'e' :: rest => some (.bool false, rest)
    | '"' :: rest => do
      let (text, rest) ← readString? rest
      return (.string text, rest)
    | '[' :: rest =>
      match skipBlanks rest with
      | ']' :: rest => some (.array [], rest)
      | rest => do
        let (items, rest) ← readItems? fuel rest
        return (.array items, rest)
    | '{' :: rest =>
      match skipBlanks rest with
      | '}' :: rest => some (.object [], rest)
      | rest => do
        let (fields, rest) ← readFields? fuel rest
        return (.object fields, rest)
    | '-' :: rest => readNumber? true rest
    | rest => readNumber? false rest

/-- The items of an array, with its closing bracket. -/
def readItems? : Nat → List Char → Option (List Json × List Char)
  | 0, _ => none
  | fuel + 1, s => do
    let (item, rest) ← readValue? fuel s
    match skipBlanks rest with
    | ',' :: rest => do
      let (items, rest) ← readItems? fuel rest
      return (item :: items, rest)
    | ']' :: rest => return ([item], rest)
    | _ => none

/-- The fields of an object, with its closing brace. -/
def readFields? : Nat → List Char → Option (List (String × Json) × List Char)
  | 0, _ => none
  | fuel + 1, s =>
    match skipBlanks s with
    | '"' :: rest => do
      let (name, rest) ← readString? rest
      match skipBlanks rest with
      | ':' :: rest => do
        let (value, rest) ← readValue? fuel rest
        match skipBlanks rest with
        | ',' :: rest => do
          let (fields, rest) ← readFields? fuel rest
          return ((name, value) :: fields, rest)
        | '}' :: rest => return ([(name, value)], rest)
        | _ => none
      | _ => none
    | _ => none

end

/-- The value that a document holds. -/
def read? (text : String) : Option Json := do
  let s := text.toList
  let (value, rest) ← readValue? (s.length + 1) s
  if (skipBlanks rest).isEmpty then return value else none

end MentionPrompt.Json
