import MentionPrompt.Number.Binary64

/-!
What a plain scalar stands for: nothing, a truth value, a number, or else a text.

An integer is decimal without leading zeros, or has a mark for its base. A number with a fraction or an
exponent counts while it is finite, and so does a decimal integer of any length that is. Main statement:
digits after a leading zero are a text.
-/

namespace MentionPrompt.Yaml

/-- The plain scalar stands for nothing. -/
def isNull (text : String) : Bool := text ∈ ["", "~", "null", "Null", "NULL"]

/-- The truth value that the plain scalar stands for. -/
def readBool? (text : String) : Option Bool :=
  if text ∈ ["true", "True", "TRUE"] then some true
  else if text ∈ ["false", "False", "FALSE"] then some false
  else none

/-! ### Integers -/

/-- The base that a mark after a zero names. -/
def base? : Char → Option Nat
  | 'x' => some 16
  | 'o' => some 8
  | 'b' => some 2
  | _ => none

/-- A number without sign and fraction: with a mark for its base, or decimal without leading zeros. -/
def readNat? : List Char → Option Nat
  | '0' :: mark :: digits => (base? mark).bind fun base => Number.read? base digits
  | digits => Number.read? 10 digits

/-- A number without fraction, with an optional plus sign. -/
def readUnsigned? : List Char → Option Nat
  | '+' :: rest => readNat? rest
  | rest => readNat? rest

/-- The integer lies in a range of 128 bits, signed below zero. -/
def isInteger (s : List Char) : Bool :=
  match s with
  | '-' :: rest => (readNat? rest).any (· ≤ Nat.pow 2 127)
  | rest => (readUnsigned? rest).any (· < Nat.pow 2 128)

/-! ### Numbers with a fraction or an exponent -/

/-- The text without a sign in front. -/
def unsigned : List Char → List Char
  | '+' :: rest => rest
  | '-' :: rest => rest
  | rest => rest

/-- Digits after a leading zero. -/
def hasLeadingZero (s : List Char) : Bool :=
  match unsigned s with
  | '0' :: c :: rest => (c :: rest).all Char.isDigit
  | _ => false

/-- The exponent at the end of a number, from its letter on. -/
def readPower? : List Char → Option Int
  | [] => some 0
  | 'e' :: rest => Number.readInt? rest
  | 'E' :: rest => Number.readInt? rest
  | _ => none

/-- The digits of a number, and the power of ten of the last of them. -/
def readScientific? (s : List Char) : Option (List Char × Int) := do
  let whole := s.takeWhile Char.isDigit
  let (fraction, rest) := match s.dropWhile Char.isDigit with
    | '.' :: rest => (rest.takeWhile Char.isDigit, rest.dropWhile Char.isDigit)
    | rest => ([], rest)
  if whole.isEmpty && fraction.isEmpty then none
  else return (whole ++ fraction, (← readPower? rest) - fraction.length)

/-- The number rounds to a finite one. Its magnitude tells, unless that is the greatest. -/
def isFinite (digits : List Char) (power : Int) : Bool :=
  let digits := digits.dropWhile (· == '0')
  let magnitude : Int := digits.length + power
  if digits.isEmpty || magnitude ≤ Binary64.greatestPower then true
  else if Binary64.greatestPower + 1 < magnitude then false
  else
    let count := (Number.read? 10 digits).getD 0
    (Binary64.nearest? (count * Nat.pow 10 power.toNat) (Nat.pow 10 (-power).toNat)).isSome

/-- The words for the numbers beyond the finite ones. -/
def isInfinity (s : List Char) : Bool :=
  String.ofList (unsigned s) ∈ [".inf", ".Inf", ".INF"]

/-- The plain scalar stands for a number. -/
def isNumber (text : String) : Bool :=
  let s := text.toList
  isInteger s || isInfinity s || text ∈ [".nan", ".NaN", ".NAN"] ||
    (!hasLeadingZero s && (readScientific? (unsigned s)).any fun (digits, power) =>
      isFinite digits power)

/-- The plain scalar stands for itself. -/
def isText (text : String) : Bool :=
  !isNull text && (readBool? text).isNone && !isNumber text

end MentionPrompt.Yaml
