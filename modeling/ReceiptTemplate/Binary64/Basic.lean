import ReceiptTemplate.Decimal.Rounding

/-!
# Binary64 — double precision numbers as exact values

A finite double is `(-1)^negative * mantissa * 2^exponent` with a mantissa of at most 53 bits.  The
numbers here are values of that form and not machine words, so every operation is exact integer
arithmetic followed by one rounding.  `ofRatio` is the nearest double to a fraction, ties to even,
with gradual underflow and with overflow to infinity.
-/

namespace ReceiptTemplate

/-- A double precision number; a finite one is normalized by `ofRatio`. -/
inductive Binary64 where
  | finite (negative : Bool) (mantissa : Nat) (exponent : Int)
  | infinite (negative : Bool)
  | nan
deriving DecidableEq, Inhabited

namespace Binary64

/-- Bits of a full mantissa. -/
def precision : Nat := 53

/-- The exponent of the least positive double. -/
def minExponent : Int := -1074

/-- The exponent of the largest finite double. -/
def maxExponent : Int := 971

def isFinite : Binary64 → Bool
  | .finite .. => true
  | _ => false

/-- The power of two in the fraction `n / d`, both positive. -/
def binade (n d : Nat) : Int :=
  let k : Int := (Nat.log2 n : Int) - Nat.log2 d
  let below : Bool := n * Nat.pow 2 (-k).toNat < d * Nat.pow 2 k.toNat
  if below then k - 1 else k

/-- The double nearest to `n / d`. -/
def ofRatio (negative : Bool) (n d : Nat) : Binary64 :=
  if n = 0 then .finite negative 0 0
  else
    let q := max (binade n d - (precision - 1)) minExponent
    let m := Decimal.roundQuotient .toEven (n * Nat.pow 2 (-q).toNat) (d * Nat.pow 2 q.toNat)
    let (m, q) := if m = Nat.pow 2 precision then (m / 2, q + 1) else (m, q)
    if maxExponent < q then .infinite negative else .finite negative m q

/-- The double nearest to a decimal.  Decimals far outside the range of doubles are not written
out. -/
def ofDecimal (d : Decimal) : Binary64 :=
  if d.isZero then .finite d.negative 0 0
  else if 400 < d.adjusted then .infinite d.negative
  else if d.adjusted < -400 then .finite d.negative 0 0
  else
    ofRatio d.negative (d.coefficient * Nat.pow 10 d.exponent.toNat) (Nat.pow 10 (-d.exponent).toNat)

/-- A finite double as a fraction; the others count as zero. -/
def ratio : Binary64 → Nat × Nat
  | .finite _ m q => (m * Nat.pow 2 q.toNat, Nat.pow 2 (-q).toNat)
  | _ => (0, 1)

/-- The nearest double to a quotient of integers. -/
def ofQuotient (n d : Nat) : Binary64 :=
  ofRatio false n d

/-- The nearest double to the product of two nonnegative doubles. -/
def mul (a b : Binary64) : Binary64 :=
  let (n, d) := a.ratio
  let (n', d') := b.ratio
  ofRatio false (n * n') (d * d')

/-- The double nearest to the number rounded half-even to `places` decimal places. -/
def roundPlaces (places : Nat) (a : Binary64) : Binary64 :=
  let (n, d) := a.ratio
  ofRatio false (Decimal.roundQuotient .toEven (n * Nat.pow 10 places) d) (Nat.pow 10 places)

/-- The whole part of a nonnegative double. -/
def floor (a : Binary64) : Nat :=
  let (n, d) := a.ratio
  n / d

end Binary64
end ReceiptTemplate
