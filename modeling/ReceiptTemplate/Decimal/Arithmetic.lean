import ReceiptTemplate.Decimal.Rounding

/-!
# Decimal arithmetic — sums, products and quotients in limited precision

Every operation is exact up to one final rounding by `fit?`.  An exact sum or quotient can be far
longer than the precision, so both are first replaced by a number that rounds alike:

* an addend far below the last kept digit of the other is replaced by a single unit just below it;
* a quotient is cut off below the last kept digit, and if anything is cut off, a last digit of zero
  or five is raised by one, so that it can not be mistaken for a tie.

`none` stands for an overflow, and for a quotient by zero.
-/

namespace ReceiptTemplate
namespace Decimal

/-! ## Sums -/

/-- A stand-in for an addend far below the last digit kept of `large`. -/
def standIn (l : Limits) (large small : Decimal) : Decimal :=
  let last := large.exponent + min (-1) ((digitCount large.coefficient : Int) - l.precision - 2)
  if small.adjusted < last then { small with coefficient := 1, exponent := last } else small

/-- The exact sum of two numbers at their lower exponent; a sum of zero is positive unless both
addends are negative. -/
def exactSum (a b : Decimal) : Decimal :=
  let e := min a.exponent b.exponent
  let x := a.coefficientAt e
  let y := b.coefficientAt e
  if a.negative = b.negative then ⟨a.negative, x + y, e⟩
  else if y < x then ⟨a.negative, x - y, e⟩
  else if x < y then ⟨b.negative, y - x, e⟩
  else ⟨false, 0, e⟩

/-- A nonzero number with its exponent lowered toward `e`, as far as the precision allows. -/
def lowerExponent (l : Limits) (d : Decimal) (e : Int) : Decimal :=
  let target := max e (d.adjusted - l.precision)
  if target < d.exponent then { d with coefficient := d.coefficientAt target, exponent := target }
  else d

/-- The sum rounded into the limits. -/
def add? (l : Limits) (a b : Decimal) : Option Decimal :=
  let e := min a.exponent b.exponent
  if a.isZero && b.isZero then fit? l ⟨a.negative && b.negative, 0, e⟩
  else if a.isZero then fit? l (b.lowerExponent l e)
  else if b.isZero then fit? l (a.lowerExponent l e)
  else if a.exponent < b.exponent then fit? l (exactSum (standIn l b a) b)
  else if b.exponent < a.exponent then fit? l (exactSum a (standIn l a b))
  else fit? l (exactSum a b)

/-- The difference rounded into the limits. -/
def sub? (l : Limits) (a b : Decimal) : Option Decimal :=
  add? l a b.negate

/-! ## Products and quotients -/

/-- The product rounded into the limits. -/
def mul? (l : Limits) (a b : Decimal) : Option Decimal :=
  fit? l ⟨a.negative != b.negative, a.coefficient * b.coefficient, a.exponent + b.exponent⟩

/-- Drops trailing zeros of a coefficient while the exponent is below `ideal`. -/
def raiseExponent (d : Decimal) (ideal : Int) : Decimal :=
  let (n, k) := dropZeros (ideal - d.exponent).toNat d.coefficient
  { d with coefficient := n, exponent := d.exponent + k }

/-- A quotient cut off two digits beyond the precision, with a last digit that shows whether
anything was cut off. -/
def cutQuotient (l : Limits) (a b : Decimal) : Decimal :=
  let shift : Int := (digitCount b.coefficient : Int) - digitCount a.coefficient + l.precision + 1
  let e := a.exponent - b.exponent - shift
  let n := if 0 ≤ shift then a.coefficient * Nat.pow 10 shift.toNat else a.coefficient
  let m := if 0 ≤ shift then b.coefficient else b.coefficient * Nat.pow 10 (-shift).toNat
  let negative := a.negative != b.negative
  let q := n / m
  if n % m = 0 then raiseExponent ⟨negative, q, e⟩ (a.exponent - b.exponent)
  else ⟨negative, if q % 5 = 0 then q + 1 else q, e⟩

/-- The quotient rounded into the limits. -/
def div? (l : Limits) (a b : Decimal) : Option Decimal :=
  if b.isZero then none
  else if a.isZero then
    fit? l ⟨a.negative != b.negative, 0, a.exponent - b.exponent⟩
  else fit? l (cutQuotient l a b)

end Decimal
end ReceiptTemplate
