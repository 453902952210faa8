import ReceiptTemplate.Decimal.Text
import ReceiptTemplate.Decimal.Rounding
import ReceiptTemplate.Locale.NumberSymbols
import ReceiptTemplate.Number.Pattern

/-!
# Formatting — numbers written by a pattern with the symbols of a locale

The magnitude is scaled, rounded half-even to the most digits that the pattern allows and written with
at least the digits that it demands.  All steps take place within a working precision: a number that
does not fit is refused.
-/

namespace ReceiptTemplate

/-- Why a number can not be written. -/
inductive FormatFault where
  /-- More digits than the working precision holds. -/
  | imprecise
  /-- A magnitude beyond the largest exponent. -/
  | overflow
  /-- A fraction of so many digits that it is not looked through. -/
  | longFraction (digits : Nat)
deriving DecidableEq

namespace NumberPattern

open Text (digitsOf padZeros)

/-! ## Digits -/

/-- The groups of digits that stand in reverse order, the lowest group first; a size of zero takes all
digits that are left. -/
def groupsFrom (size next : Nat) (digits : List Char) : List (List Char) :=
  if _h : digits.drop size = [] then [digits]
  else if size = 0 then [digits, []]
  else digits.take size :: groupsFrom next next (digits.drop size)
termination_by digits.length
decreasing_by
  have : digits.length ≠ 0 := by
    intro hz
    exact _h (by simp [List.length_eq_zero_iff.1 hz])
  simp only [List.length_drop]
  omega

/-- Grouping loses no digit. -/
theorem flatten_groupsFrom (size next : Nat) (digits : List Char) :
    (groupsFrom size next digits).flatten = digits := by
  fun_induction groupsFrom size next digits with
  | case1 => simp
  | case2 => simp
  | case3 _ _ _ _ ih => rw [List.flatten_cons, ih, List.take_append_drop]

/-- Whole digits, filled up to the least number of digits and grouped. -/
def wholeChars (p : NumberPattern) (least : Nat) (s : NumberSymbols) (digits : List Char) :
    List Char :=
  let groups := groupsFrom p.groups.1 p.groups.2 (padZeros least digits).reverse
  List.intercalate [s.group] (groups.map List.reverse).reverse

/-- The digits without the zeros at their end. -/
def trimZeros (digits : List Char) : List Char :=
  (digits.reverse.dropWhile (· == '0')).reverse

/-- The point and the digits after it: no more than are needed and no less than are demanded. -/
def fractionChars (least : Nat) (s : NumberSymbols) (digits : List Char) : List Char :=
  let kept := trimZeros digits
  let written := kept ++ List.replicate (least - kept.length) '0'
  if written.isEmpty then [] else s.decimal :: written

/-- The digits of a magnitude before and after the point. -/
def splitPoint (d : Decimal) : List Char × List Char :=
  let cs := d.plainChars
  (cs.takeWhile (· != '.'), (cs.dropWhile (· != '.')).drop 1)

/-! ## Fixed point -/

/-- A magnitude rounded to a range of decimal places. -/
def fixedChars (p : NumberPattern) (l : Decimal.Limits) (s : NumberSymbols) (places : DigitRange)
    (d : Decimal) : Except FormatFault (List Char) :=
  match Decimal.roundWithin? l .toEven places.most d with
  | none => .error .imprecise
  | some r =>
    if places.least = 0 ∧ Text.maxIntegerDigits < places.most then
      .error (.longFraction places.most)
    else
      let (whole, fraction) := splitPoint r
      .ok (p.wholeChars p.whole.least s whole ++ fractionChars places.least s fraction)

/-! ## Exponents -/

/-- Decimal places of a number without trailing zeros. -/
def naturalPlaces (d : Decimal) : Nat :=
  (-d.normalize.exponent).toNat

/-- A magnitude as a number with few leading digits and a power of ten.  A pattern without places for
the fraction shows all of it. -/
def scientificChars (p : NumberPattern) (l : Decimal.Limits) (s : NumberSymbols) (e : ExponentForm)
    (d : Decimal) : Except FormatFault (List Char) :=
  let lead : Int := (max 1 p.whole.least : Nat) - 1
  let shift := d.adjusted - lead
  let mantissa := { d with exponent := d.exponent - shift }
  let places :=
    if p.fraction = ⟨0, 0⟩ then ⟨0, naturalPlaces mantissa⟩ else p.fraction
  let sign := if shift < 0 then s.minus else if e.showsPlus then s.plus else ""
  (p.fixedChars l s places mantissa).map fun number =>
    number ++ s.exponential.toList ++ sign.toList ++
      p.wholeChars e.digits.least s (digitsOf shift.natAbs)

/-! ## Significant digits -/

/-- The digits before and after the point of a magnitude rounded to the most significant digits.  The
digits after the point start with the zeros that stand before the first significant one. -/
def significantDigits? (l : Decimal.Limits) (range : DigitRange) (d : Decimal) :
    Option (List Char × List Char) :=
  let places : Int := range.most - 1 - d.adjusted
  let shifted := { d with exponent := d.exponent + places }
  (Decimal.roundWithin? l .toEven 0 shifted).map fun r =>
    let digits := r.plainChars
    if places ≤ 0 then (digits ++ List.replicate (-places).toNat '0', [])
    else
      let n := digits.length - places.toNat
      let demanded := n + (range.least - n)
      (if n = 0 then ['0'] else digits.take n,
        List.replicate (-(d.adjusted + 1)).toNat '0' ++ (digits.take demanded).drop n ++
          trimZeros (digits.drop demanded))

def significantChars (p : NumberPattern) (l : Decimal.Limits) (s : NumberSymbols) (d : Decimal) :
    Except FormatFault (List Char) :=
  match significantDigits? l p.whole d with
  | none => .error .imprecise
  | some (whole, fraction) =>
    .ok (p.wholeChars 0 s whole ++ (if fraction.isEmpty then [] else s.decimal :: fraction))

/-! ## Whole patterns -/

/-- The text without the quotes around literal parts; two quotes in a row stand for one. -/
def unquote (cs : List Char) : List Char :=
  match cs with
  | [] => []
  | c :: tail =>
    if c = '\'' then
      match _h : Text.breakOn ['\''] tail with
      | some (quoted, rest) => (if quoted.isEmpty then ['\''] else quoted) ++ unquote rest
      | none => cs
    else c :: unquote tail
termination_by cs.length
decreasing_by
  · have := Text.length_after_of_breakOn (List.cons_ne_nil _ _) ‹_›
    simp only [List.length_cons]
    omega
  · simp

/-- The number written by the pattern within a working precision. -/
def format (p : NumberPattern) (l : Decimal.Limits) (s : NumberSymbols) (d : Decimal) :
    Except FormatFault String :=
  let scaled := { d with exponent := d.exponent + p.scale }
  if !d.isZero && l.emax < scaled.adjusted then .error .overflow
  else
    let magnitude := scaled.abs.normalize
    let number :=
      match p.exponent with
      | some e => p.scientificChars l s e magnitude
      | none =>
        if p.isSignificant then p.significantChars l s magnitude
        else p.fixedChars l s p.fraction magnitude
    number.map fun number =>
      let affixes := if d.negative then p.negative else p.positive
      String.ofList
        (unquote (affixes.before ++ (if p.hasNumber then number else []) ++ affixes.after))

end NumberPattern
end ReceiptTemplate
