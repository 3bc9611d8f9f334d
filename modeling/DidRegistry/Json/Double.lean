import DidRegistry.Text.Digits

/-!
Numbers in double precision, without sign: 53 binary digits of precision and magnitudes below
`2 ^ 1024`. Every one of them is a whole multiple of the least, `2 ^ -1074`, and is kept as that
multiple, so that equal numbers are equal counts. Arithmetic is exact up to one last rounding to the
nearest double, of two equally near ones to the even one. A whole quotient is not rounded
(`nearest_mul`).
-/

namespace DidRegistry

/-- A number in double precision without sign, counted in units of `2 ^ -1074`. -/
structure Double where
  units : Nat
  deriving DecidableEq, Repr

namespace Double

def zero : Double := ⟨0⟩

/-- One is `2 ^ scale` units. -/
def scale : Nat := 1074

/-- The count of binary digits that a double keeps. -/
def precision : Nat := 53

/-- The count of units that is beyond the range of doubles. -/
def bound : Nat := 1 <<< (1024 + scale)

/-- The whole number nearest to a quotient; of two equally near ones, the even one. -/
def nearest (numerator denominator : Nat) : Nat :=
  let down := numerator / denominator
  let excess := 2 * (numerator % denominator)
  if excess < denominator ∨ (excess = denominator ∧ down % 2 = 0) then down else down + 1

/-- A whole quotient is rounded to itself. -/
@[simp] theorem nearest_mul (value : Nat) {denominator : Nat} (positive : 0 < denominator) :
    nearest (value * denominator) denominator = value := by
  simp [nearest, Nat.mul_div_cancel _ positive, positive]

/-- The double nearest to a quotient, unless that is beyond the range. -/
def ofRatio? (numerator denominator : Nat) : Option Double :=
  let scaled := numerator <<< scale
  let dropped := (scaled / denominator).log2 + 1 - precision
  let units := nearest scaled (denominator <<< dropped) <<< dropped
  if units < bound then some ⟨units⟩ else none

/-- The double nearest to a whole number, unless that is beyond the range. -/
def ofNat? (value : Nat) : Option Double := ofRatio? value 1

/-- The product, unless it is beyond the range. -/
def mul? (a b : Double) : Option Double := ofRatio? (a.units * b.units) (1 <<< (2 * scale))

/-- The quotient, unless it is beyond the range. -/
def div? (a b : Double) : Option Double := ofRatio? a.units b.units

/-! ### Powers of ten -/

/-- The greatest power of ten in the range of doubles. -/
def maxPower : Nat := 308

/-- A power of ten, unless it is beyond the range. -/
def power? (exponent : Nat) : Option Double := ofNat? (Nat.pow 10 exponent)

/-- The number divided by a power of ten. Powers beyond the range are divided by in parts. -/
def scaleDown? (number : Double) (exponent : Nat) : Option Double :=
  if exponent ≤ maxPower then do number.div? (← power? exponent)
  else if number = zero then some zero
  else do
    let smaller ← number.div? (← power? maxPower)
    scaleDown? smaller (exponent - maxPower)
  termination_by exponent
  decreasing_by simp only [maxPower] at *; omega

/-- The number multiplied by a power of ten, unless that is beyond the range. -/
def scaleUp? (number : Double) (exponent : Nat) : Option Double :=
  if number = zero then some zero
  else if maxPower < exponent then none
  else do number.mul? (← power? exponent)

/-- The number multiplied by a power of ten, which may be a fraction. -/
def scaled? (number : Double) (exponent : Int) : Option Double :=
  if 0 ≤ exponent then number.scaleUp? exponent.toNat else number.scaleDown? exponent.natAbs

/-! ### Decimals -/

structure Decimal where
  digits : Nat
  exponent : Int
  deriving DecidableEq, Repr

/-- The double nearest to a decimal. -/
def ofDecimal? (decimal : Decimal) : Option Double :=
  if 0 ≤ decimal.exponent then ofNat? (decimal.digits * Nat.pow 10 decimal.exponent.toNat)
  else ofRatio? decimal.digits (Nat.pow 10 decimal.exponent.natAbs)

/-- The decimal that the number is: a unit is `5 ^ 1074 · 10 ^ -1074`. -/
def exactly (number : Double) : Decimal := ⟨number.units * Nat.pow 5 scale, -scale⟩

/-- A decimal that reads as the number and lacks so many of the last digits of the exact one, if
there is one: the nearest, or else the nearest on the other side. -/
def lacking? (number : Double) (exact : Decimal) (dropped : Nat) : Option Decimal :=
  let grid := Nat.pow 10 dropped
  let down := exact.digits / grid
  let candidates := [nearest exact.digits grid, down, down + 1]
  (candidates.map fun digits => Decimal.mk digits (exact.exponent + dropped)).find?
    fun decimal => ofDecimal? decimal = some number

/-- The count of digits that suffices for every double. -/
def maxDigits : Nat := 17

/-- The decimal with the fewest digits that reads as the number. -/
def shortest (number : Double) : Decimal :=
  let exact := number.exactly
  let size := (Digits.decimal exact.digits).length
  let kept := (List.range maxDigits).map (· + 1)
  (kept.findSome? fun count => number.lacking? exact (size - count)).getD exact

end Double
end DidRegistry
