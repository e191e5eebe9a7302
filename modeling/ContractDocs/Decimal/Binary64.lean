/-
Double precision numbers as exact values, and their shortest decimal form.
A finite magnitude is `mantissa * 2 ^ exponent`; reading a decimal rounds to
the nearest such value, a half going to the even mantissa, and writing one
takes the fewest digits that read back. All of it is arithmetic on natural
numbers.
-/

namespace ContractDocs.Decimal

/-- A finite magnitude `mantissa * 2 ^ exponent` of double precision. -/
structure Binary64 where
  mantissa : Nat
  exponent : Int
deriving DecidableEq, Repr, Inhabited

/-- The number `digits * 10 ^ power`. -/
structure Scaled where
  digits : Nat
  power : Int
deriving DecidableEq, Repr, Inhabited

/-- A positive power as a numerator, a negative one as a denominator. -/
def powerRatio (base : Nat) (power : Int) : Nat × Nat :=
  if power < 0 then (1, Nat.pow base power.natAbs) else (Nat.pow base power.natAbs, 1)

/-- The quotient rounded to the nearest natural number, a half going to the even one. -/
def roundDiv (num den : Nat) : Nat :=
  let low := num / den
  let twice := 2 * (num % den)
  if twice < den || (twice = den && low % 2 = 0) then low else low + 1

/-- How many decimal digits a number has; zero has one. -/
def digitCount (n : Nat) : Nat :=
  (Nat.toDigits 10 n).length

namespace Binary64

/-- The least exponent of a double. -/
def minExponent : Int := -1074

/-- The greatest exponent of a double with a mantissa of 53 bits. -/
def maxExponent : Int := 971

/-- The double nearest to `digits * 10 ^ power`, or nothing when it is too large for one. A
power far beyond the range of doubles is settled by size alone. -/
def ofScaled? (number : Scaled) : Option Binary64 :=
  let size : Int := digitCount number.digits + number.power
  if number.digits = 0 || size < -330 then some ⟨0, minExponent⟩
  else if 310 < size then none
  else
    let (up, down) := powerRatio 10 number.power
    let num := number.digits * up
    -- the quotient by `2 ^ exponent` has 53 bits, or fewer at the least exponent
    let guess : Int := (Nat.log2 num : Int) - (Nat.log2 down : Int) - 53
    let exponent := max guess minExponent
    let fits (e : Int) : Bool :=
      let (b, c) := powerRatio 2 e
      num * c < Nat.pow 2 53 * (down * b)
    let exponent := if fits exponent then exponent
      else if fits (exponent + 1) then exponent + 1 else exponent + 2
    let (b, c) := powerRatio 2 exponent
    let mantissa := roundDiv (num * c) (down * b)
    let value : Binary64 :=
      if mantissa = Nat.pow 2 53 then ⟨Nat.pow 2 52, exponent + 1⟩ else ⟨mantissa, exponent⟩
    if maxExponent < value.exponent then none else some value

/-- The decimals that read back as a value lie between `low / den` and `high / den`, the ends
included when the mantissa is even; the value itself is `centre / den`. -/
structure Basin where
  low : Nat
  centre : Nat
  high : Nat
  den : Nat
  closed : Bool

/-- The decimals that read back as a positive value. Below a power of two the neighbour is
only half as far away. -/
def basin (value : Binary64) : Basin :=
  let (up, down) := powerRatio 2 value.exponent
  let below := if value.mantissa = Nat.pow 2 52 && minExponent < value.exponent then 1 else 2
  { low := (4 * value.mantissa - below) * up
    centre := 4 * value.mantissa * up
    high := (4 * value.mantissa + 2) * up
    den := 4 * down
    closed := value.mantissa % 2 = 0 }

/-- The power of ten just below the value: `10 ^ k ≤ num / den < 10 ^ (k + 1)`. -/
def decimalExponent (num den : Nat) : Int :=
  if den ≤ num then (digitCount (num / den) : Int) - 1
  else
    -- the first power that lifts the quotient to at least one
    let lift := ((List.range 400).find? fun k => den ≤ num * Nat.pow 10 k).getD 0
    Int.negOfNat lift

/-- The nearest decimal with this many digits that reads back, if there is one. -/
def withDigits? (b : Basin) (count : Nat) : Option Scaled :=
  let power := decimalExponent b.centre b.den - (count : Int) + 1
  let (up, down) := powerRatio 10 power
  -- compare `digits * 10 ^ power` with the basin over the common denominator
  let unit := b.den * up
  let digits := b.centre * down / unit
  let inside (d : Nat) : Bool :=
    let point := d * unit
    if b.closed then b.low * down ≤ point && point ≤ b.high * down
    else b.low * down < point && point < b.high * down
  -- the upper neighbour may be the next power of ten, which one digit writes
  let upper : Scaled :=
    if digits + 1 = Nat.pow 10 count then ⟨1, power + count⟩ else ⟨digits + 1, power⟩
  let gapLow := b.centre * down - digits * unit
  let gapHigh := (digits + 1) * unit - b.centre * down
  match inside digits, inside (digits + 1) with
  | true, true =>
    if gapLow < gapHigh || (gapLow = gapHigh && digits % 2 = 0) then some ⟨digits, power⟩
    else some upper
  | true, false => some ⟨digits, power⟩
  | false, true => some upper
  | false, false => none

/-- The decimal with the fewest digits that reads back, and of those the nearest. -/
def shortest (value : Binary64) : Scaled :=
  if value.mantissa = 0 then ⟨0, 0⟩
  else
    let b := value.basin
    ((List.range 17).findSome? fun k => withDigits? b (k + 1)).getD ⟨0, 0⟩

end Binary64

end ContractDocs.Decimal
