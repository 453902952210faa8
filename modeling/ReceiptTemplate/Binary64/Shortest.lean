import ReceiptTemplate.Binary64.Basic

/-!
# Shortest digits — the fewest decimal digits that read back as a double

A decimal reads back as a double when it lies between the midpoints to the neighbouring doubles; the
midpoints belong to it when its mantissa is even.  The grids of `1, 2, … 17` significant digits are
searched for a point in that interval.  On each grid only the two neighbours of the double matter:
if any point of the grid lies inside, one of these does.
-/

namespace ReceiptTemplate
namespace Binary64

/-- The interval of numbers that read back as a positive double, over a common denominator. -/
structure Neighbourhood where
  low : Nat
  value : Nat
  high : Nat
  denominator : Nat
  closed : Bool

/-- The neighbourhood of `mantissa * 2^exponent`.  Below a power of two the doubles stand twice as
close. -/
def neighbourhood (mantissa : Nat) (exponent : Int) : Neighbourhood :=
  let scale := Nat.pow 2 (exponent - 2).toNat
  let gap := if mantissa = Nat.pow 2 (precision - 1) ∧ minExponent < exponent then 1 else 2
  { low := (4 * mantissa - gap) * scale
    value := 4 * mantissa * scale
    high := (4 * mantissa + 2) * scale
    denominator := Nat.pow 2 (2 - exponent).toNat
    closed := mantissa % 2 = 0 }

/-- Whether `n * 10^power` lies in the neighbourhood. -/
def Neighbourhood.holds (b : Neighbourhood) (n : Nat) (power : Int) : Bool :=
  let x := n * Nat.pow 10 power.toNat * b.denominator
  let s := Nat.pow 10 (-power).toNat
  if b.closed then b.low * s ≤ x && x ≤ b.high * s else b.low * s < x && x < b.high * s

/-- The power of ten of the leading digit of the double. -/
def Neighbourhood.leading (b : Neighbourhood) : Int :=
  (Decimal.digitCount (b.value * Nat.pow 10 330 / b.denominator) : Int) - 331

/-- The point of the grid `10^power` that lies in the neighbourhood and nearest to the double. -/
def Neighbourhood.nearest? (b : Neighbourhood) (power : Int) : Option Nat :=
  let n := b.value * Nat.pow 10 (-power).toNat
  let d := b.denominator * Nat.pow 10 power.toNat
  let below := n / d
  let above := below + 1
  match b.holds below power && below != 0, b.holds above power with
  | true, true => some (if 2 * (n % d) ≤ d then below else above)
  | true, false => some below
  | false, true => some above
  | false, false => none

/-- The first grid with a point in the neighbourhood, from `digits` significant digits on. -/
def Neighbourhood.search (b : Neighbourhood) : Nat → Nat → Nat × Int
  | 0, _ => (0, 0)
  | fuel + 1, digits =>
    let power := b.leading - digits + 1
    match b.nearest? power with
    | some n => (n, power)
    | none => b.search fuel (digits + 1)

/-- Coefficient and power of ten of the shortest decimal that reads back. -/
def shortest (mantissa : Nat) (exponent : Int) : Nat × Int :=
  if mantissa = 0 then (0, 0)
  else
    let (n, power) := (neighbourhood mantissa exponent).search 20 1
    let (n, k) := Decimal.dropZeros 20 n
    (n, power + k)

end Binary64
end ReceiptTemplate
