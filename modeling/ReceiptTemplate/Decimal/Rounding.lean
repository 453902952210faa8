import ReceiptTemplate.Decimal.Basic

/-!
# Decimal rounding — dropping digits by a tie rule

`roundQuotient` is the nearest integer to a fraction; a tie goes to the even neighbour or away from
zero.  On decimals it drops digits below a given place and leaves a number that has none there as it
is.  `Limits` adds a precision and an exponent range: a result beyond the range overflows, one below
it loses digits until it fits.
-/

namespace ReceiptTemplate

/-- Where a number halfway between two neighbours goes. -/
inductive Tie where
  | toEven
  | awayFromZero
deriving DecidableEq

namespace Decimal

/-- The integer nearest to `n / d`. -/
def roundQuotient (tie : Tie) (n d : Nat) : Nat :=
  let q := n / d
  let twice := 2 * (n % d)
  if twice < d then q
  else if d < twice then q + 1
  else
    match tie with
    | .awayFromZero => q + 1
    | .toEven => if q % 2 = 0 then q else q + 1

/-- The coefficient of the number rounded to a multiple of `10^e`; `e` is above the exponent. -/
def roundCoefficient (tie : Tie) (d : Decimal) (e : Int) : Nat :=
  if d.adjusted + 1 < e then 0
  else roundQuotient tie d.coefficient (Nat.pow 10 (e - d.exponent).toNat)

/-- The nearest number without digits below `10^(-places)`.  A number without such digits keeps
its exponent. -/
def roundPlaces (tie : Tie) (places : Nat) (d : Decimal) : Decimal :=
  if -(places : Int) ≤ d.exponent then d
  else ⟨d.negative, d.roundCoefficient tie (-places), -places⟩

/-! ## Limited precision -/

/-- A working precision and the exponents at which leading digits may stand. -/
structure Limits where
  precision : Nat
  emin : Int
  emax : Int

namespace Limits

/-- Twenty-eight digits and exponents of six digits. -/
def standard : Limits := ⟨28, -999999, 999999⟩

/-- The standard exponents at another precision. -/
def withPrecision (n : Nat) : Limits := { standard with precision := n }

/-- The largest working precision. -/
def maxPrecision : Nat := 999999999999999999

/-- The exponent below which digits are lost to underflow. -/
def etiny (l : Limits) : Int := l.emin - l.precision + 1

/-- The exponent of a full coefficient of the largest magnitude. -/
def etop (l : Limits) : Int := l.emax - l.precision + 1

end Limits

/-- The number rounded half-even into the limits; `none` if its magnitude overflows. -/
def fit? (l : Limits) (d : Decimal) : Option Decimal :=
  if d.isZero then some { d with exponent := min (max d.exponent l.etiny) l.emax }
  else
    let full := (digitCount d.coefficient : Int) + d.exponent - l.precision
    if l.etop < full then none
    else
      let e := max full l.etiny
      if e ≤ d.exponent then some d
      else
        let c := d.roundCoefficient .toEven e
        let (c, e) := if digitCount c ≤ l.precision then (c, e) else (c / 10, e + 1)
        if l.etop < e then none else some ⟨d.negative, c, e⟩

/-- The nearest number without digits below `10^(-places)`; `none` if writing it out to that place
takes more digits than the precision, or if its magnitude is beyond the limits. -/
def roundWithin? (l : Limits) (tie : Tie) (places : Nat) (d : Decimal) : Option Decimal :=
  let r := d.roundPlaces tie places
  if d.isZero then some r
  else if l.emax < d.adjusted || l.precision < (d.adjusted + places + 1).toNat then none
  else if !r.isZero && (l.emax < r.adjusted || l.precision < (r.adjusted + places + 1).toNat) then
    none
  else some r

/-! ## Laws of rounding -/

theorem roundQuotient_mul (tie : Tie) {n d : Nat} (hd : 0 < d) :
    roundQuotient tie (n * d) d = n := by
  simp [roundQuotient, Nat.mul_div_cancel n hd, hd]

end Decimal
end ReceiptTemplate
