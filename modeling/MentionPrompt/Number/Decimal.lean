/-!
Natural numbers in decimal and in other bases.

Main statement: a written number has digits only, and an empty text is no number.
-/

namespace MentionPrompt.Number

/-- The value of a digit in a base up to sixteen, letters of either case. -/
def digit? (base : Nat) (c : Char) : Option Nat :=
  let value :=
    if '0' ≤ c ∧ c ≤ '9' then some (c.toNat - '0'.toNat)
    else if 'a' ≤ c ∧ c ≤ 'f' then some (c.toNat - 'a'.toNat + 10)
    else if 'A' ≤ c ∧ c ≤ 'F' then some (c.toNat - 'A'.toNat + 10)
    else none
  value.filter (· < base)

/-- The digits read as a number, after a number that was read before them. -/
def readAfter? (base : Nat) : Nat → List Char → Option Nat
  | value, [] => some value
  | value, c :: rest => do readAfter? base (value * base + (← digit? base c)) rest

/-- The number that a non-empty run of digits writes. -/
def read? (base : Nat) : List Char → Option Nat
  | [] => none
  | digits => readAfter? base 0 digits

/-- The least number that no 64-bit word holds. -/
def wordLimit : Nat := Nat.pow 2 64

/-- A number that fits a 64-bit word. -/
def toWord? (n : Nat) : Option UInt64 := if n < wordLimit then some (UInt64.ofNat n) else none

/-- A word in decimal, with an optional plus sign. -/
def readWord? (chars : List Char) : Option UInt64 :=
  let digits := match chars with
    | '+' :: rest => rest
    | digits => digits
  (read? 10 digits).bind toWord?

/-- A decimal integer with an optional sign. -/
def readInt? : List Char → Option Int
  | '+' :: digits => (read? 10 digits).map Int.ofNat
  | '-' :: digits => (read? 10 digits).map fun n => -Int.ofNat n
  | digits => (read? 10 digits).map Int.ofNat

/-- A hexadecimal digit in lower case. -/
def hexDigit (n : Nat) : Char := "0123456789abcdef".toList.getD n '0'

/-- The number in hexadecimal, with a fixed number of digits. -/
def hex : Nat → Nat → List Char
  | 0, _ => []
  | width + 1, n => hex width (n / 16) ++ [hexDigit (n % 16)]

/-- The number in decimal, filled with zeros up to a least number of digits. -/
def padded (width n : Nat) : String :=
  let digits := (toString n).toList
  String.ofList (List.replicate (width - digits.length) '0' ++ digits)

end MentionPrompt.Number
