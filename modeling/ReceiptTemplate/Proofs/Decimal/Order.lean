import Mathlib.Order.Compare
import ReceiptTemplate.Proofs.Decimal.Value

/-!
# Order of decimals — comparison is the order of the values

Decimals are compared by the place of their leading digits first, and by aligned coefficients only
where these stand at the same place.  The outcome is the order of the rational numbers that they
stand for, so that scale and the sign of zero play no part in it.
-/

namespace ReceiptTemplate
namespace Decimal

variable {a b : Decimal}

/-- Numbers whose leading digits stand at different places are ordered by these places. -/
theorem abs_toRat_lt_of_adjusted (hb : b.isZero = false) (h : a.adjusted < b.adjusted) :
    |a.toRat| < |b.toRat| := by
  have hle : (10 : ℚ) ^ (a.adjusted + 1) ≤ 10 ^ b.adjusted :=
    zpow_le_zpow_right₀ (by norm_num) (by omega)
  exact lt_of_lt_of_le (abs_toRat_lt a) (le_trans hle (le_abs_toRat hb))

/-- At one exponent the coefficients are in the order of the magnitudes. -/
theorem compare_coefficientAt {e : Int} (ha : e ≤ a.exponent) (hb : e ≤ b.exponent) :
    compare (a.coefficientAt e) (b.coefficientAt e) = compare |a.toRat| |b.toRat| := by
  have hpos : (0 : ℚ) < 10 ^ e := by positivity
  have hmono : StrictMono fun n : ℕ => (n : ℚ) * 10 ^ e := by
    intro m n h
    exact mul_lt_mul_of_pos_right (Nat.cast_lt.2 h) hpos
  rw [abs_toRat, abs_toRat, ← coefficientAt_cast ha, ← coefficientAt_cast hb, ← cmp_eq_compare,
    ← cmp_eq_compare]
  exact (hmono.cmp_map_eq _ _).symm

theorem compareAbs_eq (a b : Decimal) : a.compareAbs b = compare |a.toRat| |b.toRat| := by
  have hzero {d : Decimal} (h : d.coefficient = 0) : |d.toRat| = 0 := by
    rw [toRat_of_isZero (isZero_iff.2 h), abs_zero]
  have hpos {d : Decimal} (h : d.coefficient ≠ 0) : 0 < |d.toRat| :=
    abs_pos.2 (toRat_ne_zero (isZero_eq_false_iff.2 h))
  unfold compareAbs
  split
  · next ha =>
    split
    · next hb => rw [hzero ha, hzero hb, compare_eq_iff_eq.2 rfl]
    · next hb => rw [hzero ha, compare_lt_iff_lt.2 (hpos hb)]
  · next ha =>
    split
    · next hb => rw [hzero hb, compare_gt_iff_gt.2 (hpos ha)]
    · next hb =>
      -- The places of the leading digits decide, and the coefficients where these places are equal.
      cases hplace : compare a.adjusted b.adjusted with
      | lt =>
        have hlt := abs_toRat_lt_of_adjusted (isZero_eq_false_iff.2 hb) (compare_lt_iff_lt.1 hplace)
        rw [compare_lt_iff_lt.2 hlt]
      | gt =>
        have hlt := abs_toRat_lt_of_adjusted (isZero_eq_false_iff.2 ha) (compare_gt_iff_gt.1 hplace)
        rw [compare_gt_iff_gt.2 hlt]
      | eq => exact compare_coefficientAt (Int.min_le_left _ _) (Int.min_le_right _ _)

/-- Comparison is the order of the values. -/
theorem cmp_eq (a b : Decimal) : a.cmp b = compare a.toRat b.toRat := by
  have hbelow {d : Decimal} (h : d.isBelowZero = true) : d.toRat < 0 := (isBelowZero_iff d).1 h
  have habove {d : Decimal} (h : d.isBelowZero = false) : 0 ≤ d.toRat := by
    rw [← not_lt, ← isBelowZero_iff, h]
    exact Bool.false_ne_true
  unfold cmp
  cases ha : a.isBelowZero with
  | false =>
    cases hb : b.isBelowZero with
    | false =>
      dsimp only
      rw [compareAbs_eq, abs_of_nonneg (habove ha), abs_of_nonneg (habove hb)]
    | true => exact (compare_gt_iff_gt.2 (lt_of_lt_of_le (hbelow hb) (habove ha))).symm
  | true =>
    cases hb : b.isBelowZero with
    | false => exact (compare_lt_iff_lt.2 (lt_of_lt_of_le (hbelow ha) (habove hb))).symm
    | true =>
      -- Below zero the larger magnitude belongs to the smaller number.
      have hanti : StrictAnti fun x : ℚ => -x := fun x y h => neg_lt_neg h
      dsimp only
      rw [compareAbs_eq, abs_of_neg (hbelow ha), abs_of_neg (hbelow hb), ← cmp_eq_compare,
        ← cmp_eq_compare]
      exact hanti.cmp_map_eq b.toRat a.toRat

theorem same_iff (a b : Decimal) : a.same b = true ↔ a.toRat = b.toRat := by
  rw [same, cmp_eq, beq_iff_eq, compare_eq_iff_eq]

end Decimal
end ReceiptTemplate
