import ReceiptTemplate.Text.Integer

/-!
# Decimal — finite decimal numbers that keep their scale

A decimal is a sign, a coefficient and a power of ten.  `1.50` and `1.5` are different decimals with
the same value, and so are `0` and `-0`: arithmetic and printing see the scale, comparison does not.
Comparison aligns two coefficients only when the leading digits stand at the same place, so it never
builds a number longer than its operands.
-/

namespace ReceiptTemplate

/-- The number `(-1)^negative * coefficient * 10^exponent`. -/
structure Decimal where
  negative : Bool
  coefficient : Nat
  exponent : Int
deriving DecidableEq, Inhabited

namespace Decimal

/-! ## Construction -/

def zero : Decimal := ⟨false, 0, 0⟩

def ofNat (n : Nat) : Decimal := ⟨false, n, 0⟩

def ofInt (n : Int) : Decimal := ⟨n < 0, n.natAbs, 0⟩

/-! ## Shape -/

/-- How many decimal digits a number has; zero has one. -/
def digitCount (n : Nat) : Nat :=
  (Text.digitsOf n).length

def isZero (d : Decimal) : Bool :=
  d.coefficient == 0

/-- The power of ten at which the leading digit stands. -/
def adjusted (d : Decimal) : Int :=
  d.exponent + digitCount d.coefficient - 1

/-- Whether the number lies strictly below zero. -/
def isBelowZero (d : Decimal) : Bool :=
  d.negative && d.coefficient != 0

/-- The same digits with the other sign. -/
def negate (d : Decimal) : Decimal :=
  { d with negative := !d.negative }

/-- The same digits without the sign. -/
def abs (d : Decimal) : Decimal :=
  { d with negative := false }

/-- The coefficient once the exponent is lowered to `e`. -/
def coefficientAt (d : Decimal) (e : Int) : Nat :=
  d.coefficient * Nat.pow 10 (d.exponent - e).toNat

/-! ## Order -/

/-- The order of the magnitudes. -/
def compareAbs (a b : Decimal) : Ordering :=
  if a.coefficient = 0 then
    if b.coefficient = 0 then .eq else .lt
  else if b.coefficient = 0 then .gt
  else
    match compare a.adjusted b.adjusted with
    | .eq => compare (a.coefficientAt (min a.exponent b.exponent))
        (b.coefficientAt (min a.exponent b.exponent))
    | o => o

/-- The numeric order; scale and the sign of zero play no part. -/
def cmp (a b : Decimal) : Ordering :=
  match a.isBelowZero, b.isBelowZero with
  | false, false => compareAbs a b
  | false, true => .gt
  | true, false => .lt
  | true, true => compareAbs b a

/-- Numeric equality. -/
def same (a b : Decimal) : Bool :=
  cmp a b == .eq

def lt (a b : Decimal) : Bool :=
  cmp a b == .lt

def le (a b : Decimal) : Bool :=
  cmp a b != .gt

/-! ## Whole part -/

/-- The magnitude without its fraction. -/
def wholeAbs (d : Decimal) : Nat :=
  if d.adjusted < 0 then 0
  else if 0 ≤ d.exponent then d.coefficient * Nat.pow 10 d.exponent.toNat
  else d.coefficient / Nat.pow 10 (-d.exponent).toNat

/-- The number without its fraction. -/
def whole (d : Decimal) : Int :=
  if d.negative then -(d.wholeAbs : Int) else d.wholeAbs

/-- Whether the number has no fraction. -/
def isWhole (d : Decimal) : Bool :=
  if d.isZero || 0 ≤ d.exponent then true
  else if d.adjusted < 0 then false
  else d.coefficient % Nat.pow 10 (-d.exponent).toNat == 0

/-! ## Trailing zeros -/

/-- Drops up to `limit` trailing zeros of a coefficient and counts them. -/
def dropZeros : Nat → Nat → Nat × Nat
  | 0, n => (n, 0)
  | limit + 1, n =>
    if n % 10 = 0 then
      let (m, k) := dropZeros limit (n / 10)
      (m, k + 1)
    else (n, 0)

/-- The equal number with the shortest coefficient; zero gets exponent zero. -/
def normalize (d : Decimal) : Decimal :=
  if d.isZero then ⟨d.negative, 0, 0⟩
  else
    let (n, k) := dropZeros (digitCount d.coefficient) d.coefficient
    ⟨d.negative, n, d.exponent + k⟩

end Decimal
end ReceiptTemplate
