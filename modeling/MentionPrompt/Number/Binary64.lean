import MentionPrompt.Number.Decimal

/-!
Double-precision numbers as their 64 bits, with exact arithmetic on natural numbers.

A magnitude is `m · 2 ^ e` with `m < 2 ^ 53`; its bits count the magnitudes below it, so rounding may
carry from one exponent to the next without a special case. Rounding takes the nearest magnitude and
of two equally near ones the even one. Writing takes the fewest digits that read back.
-/

namespace MentionPrompt

/-- A double-precision number. -/
structure Binary64 where
  bits : UInt64
  deriving DecidableEq, Repr

namespace Binary64

/-- The bits of the first magnitude beyond the finite ones. -/
def infinity : Nat := 0x7FF * Nat.pow 2 52

/-- The number without its sign. -/
def magnitude (x : Binary64) : Nat := x.bits.toNat % Nat.pow 2 63

/-- The sign bit is set. -/
def isNegative (x : Binary64) : Bool := Nat.pow 2 63 ≤ x.bits.toNat

/-- The number with the sign and the magnitude. -/
def ofMagnitude (negative : Bool) (magnitude : Nat) : Binary64 :=
  ⟨UInt64.ofNat (magnitude + if negative then Nat.pow 2 63 else 0)⟩

/-- The magnitude as `(m, e)` for `m · 2 ^ (e - 1074)`. -/
def decode (magnitude : Nat) : Nat × Nat :=
  let field := magnitude / Nat.pow 2 52
  let fraction := magnitude % Nat.pow 2 52
  if field = 0 then (fraction, 0) else (fraction + Nat.pow 2 52, field - 1)

/-- The quotient rounded to the nearest integer, halves to the even one. -/
def roundDiv (num den : Nat) : Nat :=
  let q := num / den
  let twice := 2 * (num % den)
  if twice < den ∨ (twice = den ∧ q % 2 = 0) then q else q + 1

/-- The magnitude nearest to `num / den`; `none` if it is not finite. -/
def nearest? (num den : Nat) : Option Nat :=
  let scaled := num * Nat.pow 2 1074
  let exponent := (scaled / den).log2 - 52
  let magnitude := exponent * Nat.pow 2 52 + roundDiv scaled (den * Nat.pow 2 exponent)
  if magnitude < infinity then some magnitude else none

/-- The product of a magnitude and a power of ten, each rounded; division for a negative power. -/
def scaleByTen? (magnitude : Nat) (power : Int) : Option Nat := do
  let (m, e) := decode magnitude
  let ten := decode (← nearest? (Nat.pow 10 power.natAbs) 1)
  if 0 ≤ power then nearest? (m * Nat.pow 2 e * (ten.1 * Nat.pow 2 ten.2)) (Nat.pow 2 (2 * 1074))
  else nearest? (m * Nat.pow 2 e) (ten.1 * Nat.pow 2 ten.2)

/-- The greatest power of ten that is a finite number. -/
def greatestPower : Nat := 308

/-- Scales by a power of ten of any size, in steps that each stay in range. -/
def scale? : Nat → Nat → Int → Option Nat
  | 0, magnitude, power => scaleByTen? magnitude power
  | steps + 1, magnitude, power =>
    if power.natAbs ≤ greatestPower then scaleByTen? magnitude power
    else if magnitude = 0 then some 0
    else if 0 ≤ power then none
    else do scale? steps (← scaleByTen? magnitude (-greatestPower)) (power + greatestPower)

/-- The number written with a significand and a decimal exponent: the significand is rounded first,
and then scaled. Three steps bring any finite magnitude down to zero. -/
def ofDecimal? (negative : Bool) (significand : Nat) (exponent : Int) : Option Binary64 := do
  let magnitude ← nearest? significand 1
  return ofMagnitude negative (← scale? 3 magnitude exponent)

/-! ### Shortest decimal form -/

/-- Twice the distance bounds of the reals that round to the magnitude: `(low, value, high)`, all in
units of `2 ^ -1076`, and whether the bounds themselves round to it. -/
def roundingInterval (magnitude : Nat) : Nat × Nat × Nat × Bool :=
  let (m, e) := decode magnitude
  let unit := Nat.pow 2 e
  let below := if m = Nat.pow 2 52 ∧ 0 < e then unit else 2 * unit
  (4 * m * unit - below, 4 * m * unit, 4 * m * unit + 2 * unit, m % 2 = 0)

/-- The number lies in the interval. -/
def within (low high : Nat) (closed : Bool) (x : Nat) : Bool :=
  if closed then low ≤ x && x ≤ high else low < x && x < high

/-- The multiple of `10 ^ position` nearest to the magnitude that rounds to it, as a count of that
power. The interval is taken `scale` times finer, so that powers below one are whole numbers too. -/
def onGrid? (magnitude : Nat) (position : Int) : Option Nat :=
  let (low, value, high, closed) := roundingInterval magnitude
  let fine := if position < 0 then Nat.pow 10 position.natAbs else 1
  let grid := (if position < 0 then 1 else Nat.pow 10 position.natAbs) * Nat.pow 2 1076
  let value := value * fine
  let floor := value / grid
  let fits (count : Nat) : Bool := within (low * fine) (high * fine) closed (count * grid)
  let lowerFits := fits floor
  let upperFits := fits (floor + 1)
  let distance := value - floor * grid
  if lowerFits && (!upperFits || 2 * distance < grid || (2 * distance = grid && floor % 2 = 0)) then
    some floor
  else if upperFits then some (floor + 1)
  else none

/-- The coarsest grid with a number that reads back, tried from `10 ^ position` downwards. -/
def shortestFrom (magnitude : Nat) : Nat → Int → Nat × Int
  | 0, position => (0, position)
  | steps + 1, position =>
    match onGrid? magnitude position with
    | some count => if count = 0 then shortestFrom magnitude steps (position - 1) else (count, position)
    | none => shortestFrom magnitude steps (position - 1)

/-- The fewest digits that read back, and the power of ten of the last of them. -/
def shortest (magnitude : Nat) : Nat × Int :=
  let (m, e) := decode magnitude
  let top : Int := ((m * Nat.pow 2 e).log2 - 1074 : Int) * 30103 / 100000 + 1
  shortestFrom magnitude 40 top

end Binary64

end MentionPrompt
