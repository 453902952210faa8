import ReceiptTemplate.Decimal.Arithmetic
import ReceiptTemplate.Proofs.Decimal.Fitting

/-!
# Correct rounding — sums, products and quotients of decimals

Every operation gives the exact rational result rounded once into the limits.  Products and sums at one
exponent are exact before they are fitted.  Where a stand-in takes the place of an exact result, the two lie
in the same half of a unit that is not kept, and are rounded alike:

* a sum with an addend far below the last kept digit of the other, which a single unit just below that digit
  replaces;
* a quotient that is cut off two digits below the last kept one, with a last digit that is no multiple of
  five unless nothing was cut off.
-/

namespace ReceiptTemplate
namespace Decimal

variable {l : Limits} {a b d : Decimal} {e : ℤ}

/-! ## Exact values -/

theorem toRat_mk (negative : Bool) (n : ℕ) (e : ℤ) :
    (⟨negative, n, e⟩ : Decimal).toRat = (if negative then -1 else 1) * n * 10 ^ e := by
  cases negative <;> simp [toRat]

theorem toRat_exactSum (a b : Decimal) : (exactSum a b).toRat = a.toRat + b.toRat := by
  have ha := toRat_lowerTo (d := a) (min_le_left a.exponent b.exponent)
  have hb := toRat_lowerTo (d := b) (min_le_right a.exponent b.exponent)
  rw [← ha, ← hb]
  unfold exactSum lowerTo
  dsimp only
  generalize a.coefficientAt (min a.exponent b.exponent) = x
  generalize b.coefficientAt (min a.exponent b.exponent) = y
  by_cases hsign : a.negative = b.negative
  · rw [if_pos hsign, hsign]
    simp only [toRat_mk]
    push_cast
    ring
  -- Of opposite signs the larger magnitude gives the sign of the sum.
  have hopposite : (if b.negative then -1 else 1 : ℚ) = -(if a.negative then -1 else 1) := by
    revert hsign
    cases a.negative <;> cases b.negative <;> simp
  rw [if_neg hsign]
  split
  · next hlt =>
    simp only [toRat_mk, hopposite, Nat.cast_sub hlt.le]
    ring
  · split
    · next hlt =>
      simp only [toRat_mk, hopposite, Nat.cast_sub hlt.le]
      ring
    · next hle hge =>
      obtain rfl : x = y := by omega
      simp only [toRat_mk, hopposite]
      push_cast
      ring

theorem toRat_lowerExponent (l : Limits) (d : Decimal) (e : ℤ) : (d.lowerExponent l e).toRat = d.toRat := by
  unfold lowerExponent
  dsimp only
  split
  · next hlt => exact toRat_lowerTo hlt.le
  · rfl

theorem toRat_mul (a b : Decimal) :
    (⟨a.negative != b.negative, a.coefficient * b.coefficient, a.exponent + b.exponent⟩ : Decimal).toRat
      = a.toRat * b.toRat := by
  cases a with
  | mk negative n e =>
    cases b with
    | mk negative' n' e' =>
      simp only [toRat_mk, ten_zpow_add]
      push_cast
      cases negative <;> cases negative' <;> simp <;> ring

theorem toRat_raiseExponent (d : Decimal) (ideal : ℤ) : (raiseExponent d ideal).toRat = d.toRat := by
  have hdrop := (dropZeros_spec (ideal - d.exponent).toNat d.coefficient).1
  unfold raiseExponent
  cases d with
  | mk negative n e =>
    simp only at hdrop ⊢
    generalize dropZeros (ideal - e).toNat n = dropped at hdrop
    rw [hdrop, toRat_mk, toRat_mk, ten_zpow_add, zpow_natCast]
    push_cast
    ring

/-- A number whose digits all stand at or above `10^e` is a multiple of it. -/
theorem exists_toRat_eq (h : e ≤ d.exponent) : ∃ n : ℤ, d.toRat = n * 10 ^ e := by
  rw [← toRat_lowerTo h, lowerTo, toRat_mk]
  refine ⟨(if d.negative then -1 else 1) * d.coefficientAt e, ?_⟩
  push_cast
  rfl

/-! ## Sums -/

/-- Moves of less than half a unit in one direction end in the same half. -/
theorem sameHalf_add (n : ℤ) {x y : ℚ} (hx : 0 < x ∧ 2 * x < 10 ^ e) (hy : 0 < y ∧ 2 * y < 10 ^ e) :
    SameHalf e (n * 10 ^ e + x) (n * 10 ^ e + y) := by
  have hpos := ten_zpow_pos e
  have hmoved {z : ℚ} (hz : 0 < z ∧ 2 * z < 10 ^ e) :
      ((2 * n : ℤ) : ℚ) < 2 * (n * 10 ^ e + z) / 10 ^ e ∧
        2 * (n * 10 ^ e + z) / 10 ^ e < (2 * n : ℤ) + 1 := by
    rw [lt_div_iff₀ hpos, div_lt_iff₀ hpos]
    push_cast
    constructor <;> linarith [hz.1, hz.2]
  exact ⟨2 * n, hmoved hx, hmoved hy⟩

section StandIn

variable {large small : Decimal} (hlarge : large.isZero = false) (hsmall : small.isZero = false)

include hlarge in
/-- An addend below the last digit of the other one leaves its leading digit, or the one below it. -/
theorem le_abs_add {x : ℚ} (hx : |x| < 10 ^ (large.adjusted - 1)) :
    10 ^ (large.adjusted - 1) ≤ |large.toRat + x| := by
  have hlow := le_abs_toRat hlarge
  have hsplit : (10 : ℚ) ^ large.adjusted = 10 ^ (large.adjusted - 1) * 10 := by
    rw [← zpow_add_one₀ (by norm_num)]
    congr 1
    omega
  have htriangle : |large.toRat| ≤ |large.toRat + x| + |x| := by
    simpa using abs_sub (large.toRat + x) x
  have hpos := ten_zpow_pos (large.adjusted - 1)
  linarith

include hlarge hsmall in
/-- A sum with the stand-in is rounded like the sum with the addend. -/
theorem round?_standIn (hl : 0 < l.precision) :
    l.round? (large.toRat + (standIn l large small).toRat) = l.round? (large.toRat + small.toRat) := by
  unfold standIn
  dsimp only
  split
  swap
  · rfl
  next hfar =>
  have hcount := digitCount_pos large.coefficient
  have hleading : large.adjusted = large.exponent + digitCount large.coefficient - 1 := rfl
  obtain ⟨last, hlast⟩ : ∃ last, last
      = large.exponent + min (-1) ((digitCount large.coefficient : ℤ) - l.precision - 2) := ⟨_, rfl⟩
  rw [← hlast] at hfar ⊢
  have hunit : (10 : ℚ) ^ (last + 1) = 10 ^ last * 10 := by rw [ten_zpow_add, zpow_one]
  have hpos := ten_zpow_pos last
  have hmagnitude : |small.toRat| < 10 ^ last := (abs_toRat_lt_iff hsmall).2 hfar
  have hsmallpos := abs_pos.2 (toRat_ne_zero hsmall)
  have hplace : last + 1 ≤ l.lastPlace (large.toRat + small.toRat) := by
    have hbelow : |small.toRat| < 10 ^ (large.adjusted - 1) :=
      (abs_toRat_lt_iff hsmall).2 (by omega)
    have hkept := Limits.le_lastPlace l (le_abs_add hlarge hbelow)
    omega
  obtain ⟨n, hn⟩ := exists_toRat_eq (d := large) (e := last + 1) (by omega)
  have hone : (({ small with coefficient := 1, exponent := last } : Decimal).toRat)
      = if small.negative then -10 ^ last else 10 ^ last := by
    simp [toRat]
  have hself : small.toRat = if small.negative then -|small.toRat| else |small.toRat| := by
    rw [abs_toRat]
    rfl
  refine (Limits.round?_eq_of_sameHalf hl ?_ hplace).symm
  rw [hone, hself, hn]
  -- Both addends have the sign of the small one and are less than half a unit long.
  split
  · have hhalf := sameHalf_add (e := last + 1) (-n) (x := |small.toRat|) (y := 10 ^ last)
      ⟨hsmallpos, by linarith⟩ ⟨hpos, by linarith⟩
    have hneg (z : ℚ) : (n : ℚ) * 10 ^ (last + 1) + -z = -((-n : ℤ) * 10 ^ (last + 1) + z) := by
      push_cast
      ring
    rw [hneg, hneg]
    exact hhalf.neg
  · exact sameHalf_add n ⟨hsmallpos, by linarith⟩ ⟨hpos, by linarith⟩

end StandIn

/-- A sum is the exact sum, rounded once. -/
theorem map_toRat_add? (hl : l.Proper) (a b : Decimal) :
    (add? l a b).map toRat = l.round? (a.toRat + b.toRat) := by
  unfold add?
  dsimp only
  cases ha : a.isZero with
  | true =>
    rw [toRat_of_isZero ha, zero_add]
    cases hb : b.isZero with
    | true =>
      rw [toRat_of_isZero hb]
      simp only [Bool.and_self, if_true]
      rw [map_toRat_fit? hl, toRat_mk, Nat.cast_zero, mul_zero, zero_mul]
    | false =>
      simp only [Bool.and_false, Bool.false_eq_true, if_false, if_true]
      rw [map_toRat_fit? hl, toRat_lowerExponent]
  | false =>
    simp only [Bool.false_and, Bool.false_eq_true, if_false]
    cases hb : b.isZero with
    | true =>
      simp only [if_true]
      rw [toRat_of_isZero hb, add_zero, map_toRat_fit? hl, toRat_lowerExponent]
    | false =>
      simp only [Bool.false_eq_true, if_false]
      split
      · rw [map_toRat_fit? hl, toRat_exactSum, add_comm, round?_standIn hb ha hl.precision, add_comm]
      · split
        · rw [map_toRat_fit? hl, toRat_exactSum, round?_standIn ha hb hl.precision]
        · rw [map_toRat_fit? hl, toRat_exactSum]

/-- A difference is the exact difference, rounded once. -/
theorem map_toRat_sub? (hl : l.Proper) (a b : Decimal) :
    (sub? l a b).map toRat = l.round? (a.toRat - b.toRat) := by
  rw [sub?, map_toRat_add? hl, toRat_negate, sub_eq_add_neg]

/-! ## Products -/

/-- A product is the exact product, rounded once. -/
theorem map_toRat_mul? (hl : l.Proper) (a b : Decimal) :
    (mul? l a b).map toRat = l.round? (a.toRat * b.toRat) := by
  rw [mul?, map_toRat_fit? hl, toRat_mul]

/-! ## Quotients -/

/-- The fraction of two coefficients, one of which was lengthened. -/
theorem cast_div_cast_shift (n m : ℕ) (shift : ℤ) :
    ((if 0 ≤ shift then n * Nat.pow 10 shift.toNat else n : ℕ) : ℚ) /
        (if 0 ≤ shift then m else m * Nat.pow 10 (-shift).toNat : ℕ) = n / m * 10 ^ shift := by
  have hpow (k : ℕ) : ((Nat.pow 10 k : ℕ) : ℚ) = 10 ^ (k : ℤ) := by
    rw [zpow_natCast]
    exact_mod_cast rfl
  split
  · next h =>
    obtain ⟨k, rfl⟩ : ∃ k : ℕ, shift = k := ⟨shift.toNat, by omega⟩
    rw [Int.toNat_natCast, Nat.cast_mul, hpow]
    ring
  · next h =>
    obtain ⟨k, rfl⟩ : ∃ k : ℕ, shift = -k := ⟨(-shift).toNat, by omega⟩
    rw [neg_neg, Int.toNat_natCast, Nat.cast_mul, hpow, zpow_neg]
    ring

/-- A fraction that is no integer is in the same half as the integer below it, or above it, that is no
multiple of five. -/
theorem sameHalf_cut {n m : ℕ} (hm : 0 < m) (hrest : n % m ≠ 0) (e : ℤ) :
    SameHalf (e + 1) ((n : ℚ) / m * 10 ^ e)
      ((if n / m % 5 = 0 then n / m + 1 else n / m : ℕ) * 10 ^ e) := by
  have hpos := ten_zpow_pos e
  have hmpos : (0 : ℚ) < m := by exact_mod_cast hm
  have hsplit := Nat.div_add_mod' n m
  have hfifth (z : ℚ) : 2 * (z * 10 ^ e) / 10 ^ (e + 1) = z / 5 := by
    rw [ten_zpow_add, zpow_one]
    field_simp
    ring
  have hlow : (5 * (n / m / 5) : ℕ) < (n : ℚ) / m := by
    have hlt : n / m * m < n := by omega
    have hfive : 5 * (n / m / 5) ≤ n / m := Nat.mul_div_le _ _
    rw [lt_div_iff₀ hmpos]
    exact_mod_cast lt_of_le_of_lt (Nat.mul_le_mul_right m hfive) hlt
  have hhigh : (n : ℚ) / m < (5 * (n / m / 5) + 5 : ℕ) := by
    have hmod := Nat.mod_lt n hm
    have hlt : n < (n / m + 1) * m := by
      rw [Nat.add_mul]
      omega
    have hfive : n / m + 1 ≤ 5 * (n / m / 5) + 5 := by omega
    rw [div_lt_iff₀ hmpos]
    exact_mod_cast lt_of_lt_of_le hlt (Nat.mul_le_mul_right m hfive)
  have hcut : 5 * (n / m / 5) < (if n / m % 5 = 0 then n / m + 1 else n / m) ∧
      (if n / m % 5 = 0 then n / m + 1 else n / m) < 5 * (n / m / 5) + 5 := by
    split <;> omega
  generalize (if n / m % 5 = 0 then n / m + 1 else n / m) = cut at hcut ⊢
  have hcutLow : (5 * (n / m / 5) : ℕ) < (cut : ℚ) := by exact_mod_cast hcut.1
  have hcutHigh : (cut : ℚ) < (5 * (n / m / 5) + 5 : ℕ) := by exact_mod_cast hcut.2
  refine ⟨(n / m / 5 : ℕ), ?_⟩
  rw [hfifth, hfifth, Int.cast_natCast]
  push_cast at hlow hhigh hcutLow hcutHigh
  refine ⟨⟨?_, ?_⟩, ⟨?_, ?_⟩⟩ <;> linarith

/-- The exponent at which a quotient is cut off. -/
def cutShift (l : Limits) (a b : Decimal) : ℤ :=
  (digitCount b.coefficient : ℤ) - digitCount a.coefficient + l.precision + 1

section Quotient

variable (ha : a.isZero = false) (hb : b.isZero = false)

theorem toRat_div (a b : Decimal) (shift : ℤ) :
    a.toRat / b.toRat = (if a.negative != b.negative then -1 else 1) *
      ((a.coefficient / b.coefficient * 10 ^ shift) * 10 ^ (a.exponent - b.exponent - shift)) := by
  have hexp : (10 : ℚ) ^ shift * 10 ^ (a.exponent - b.exponent - shift)
      = 10 ^ a.exponent / 10 ^ b.exponent := by
    rw [← ten_zpow_add, ← zpow_sub₀ (by norm_num)]
    congr 1
    omega
  rw [mul_assoc, hexp]
  cases a with
  | mk negative n e =>
    cases b with
    | mk negative' n' e' =>
      simp only [toRat_mk]
      cases negative <;> cases negative' <;> simp <;> ring

include ha hb in
/-- The quotient of the coefficients has more digits than the precision once it is shifted. -/
theorem pow_precision_le_quotient (l : Limits) :
    (10 : ℚ) ^ (l.precision : ℤ) ≤ a.coefficient / b.coefficient * 10 ^ cutShift l a b := by
  rw [isZero_eq_false_iff] at ha hb
  obtain ⟨k, hk⟩ : ∃ k, digitCount a.coefficient = k + 1 :=
    Nat.exists_eq_add_one.2 (digitCount_pos a.coefficient)
  have hdividend : (10 : ℚ) ^ (k : ℤ) ≤ a.coefficient := by
    rw [zpow_natCast]
    exact_mod_cast pow_le_of_lt_digitCount ha (by omega)
  have hdivisor : (b.coefficient : ℚ) ≤ 10 ^ (digitCount b.coefficient : ℤ) := by
    rw [zpow_natCast]
    exact_mod_cast (lt_pow_digitCount b.coefficient).le
  have hpos : (0 : ℚ) < b.coefficient := by exact_mod_cast Nat.pos_of_ne_zero hb
  have hexp : (l.precision : ℤ) + digitCount b.coefficient = k + cutShift l a b := by
    rw [cutShift, hk]
    push_cast
    ring
  rw [div_mul_eq_mul_div, le_div_iff₀ hpos]
  calc (10 : ℚ) ^ (l.precision : ℤ) * b.coefficient
      ≤ 10 ^ (l.precision : ℤ) * 10 ^ (digitCount b.coefficient : ℤ) :=
        mul_le_mul_of_nonneg_left hdivisor (ten_zpow_pos _).le
    _ = 10 ^ (k : ℤ) * 10 ^ cutShift l a b := by rw [← ten_zpow_add, hexp, ten_zpow_add]
    _ ≤ a.coefficient * 10 ^ cutShift l a b :=
        mul_le_mul_of_nonneg_right hdividend (ten_zpow_pos _).le

include ha hb in
/-- A quotient is cut off below the last place that is kept of it. -/
theorem cut_lt_lastPlace (l : Limits) :
    a.exponent - b.exponent - cutShift l a b < l.lastPlace (a.toRat / b.toRat) := by
  have hlarge := pow_precision_le_quotient ha hb l
  have hsign : |(if a.negative != b.negative then -1 else 1 : ℚ)| = 1 := by
    split <;> norm_num
  have hmagnitude : (10 : ℚ) ^ ((l.precision : ℤ) + (a.exponent - b.exponent - cutShift l a b))
      ≤ |a.toRat / b.toRat| := by
    rw [toRat_div a b (cutShift l a b), abs_mul, hsign, one_mul, ten_zpow_add]
    exact (mul_le_mul_of_nonneg_right hlarge (ten_zpow_pos _).le).trans (le_abs_self _)
  have hkept := Limits.le_lastPlace l hmagnitude
  omega

include ha hb in
theorem round?_cutQuotient (hl : 0 < l.precision) :
    l.round? (cutQuotient l a b).toRat = l.round? (a.toRat / b.toRat) := by
  have hexact := toRat_div a b (cutShift l a b)
  have hplace := cut_lt_lastPlace ha hb l
  have hfraction := cast_div_cast_shift a.coefficient b.coefficient (cutShift l a b)
  have hdivisor : 0 < if 0 ≤ cutShift l a b then b.coefficient
      else b.coefficient * Nat.pow 10 (-cutShift l a b).toNat := by
    have hpos := Nat.pos_of_ne_zero (isZero_eq_false_iff.1 hb)
    split
    · exact hpos
    · exact Nat.mul_pos hpos (Nat.pow_pos (by decide))
  unfold cutQuotient
  dsimp only
  rw [← cutShift]
  rw [← hfraction] at hexact
  generalize (if 0 ≤ cutShift l a b then a.coefficient * _ else a.coefficient) = n at *
  generalize (if 0 ≤ cutShift l a b then b.coefficient else _) = m at *
  generalize a.exponent - b.exponent - cutShift l a b = e at *
  split
  · -- Nothing was cut off.
    next hrest =>
    have hmpos : (m : ℚ) ≠ 0 := by exact_mod_cast hdivisor.ne'
    have hwhole : (n : ℚ) / m = (n / m : ℕ) := by
      rw [div_eq_iff hmpos]
      exact_mod_cast (Nat.div_mul_cancel (Nat.dvd_of_mod_eq_zero hrest)).symm
    rw [toRat_raiseExponent, toRat_mk, hexact, hwhole, mul_assoc]
  · next hrest =>
    have hhalf := sameHalf_cut hdivisor hrest e
    refine (Limits.round?_eq_of_sameHalf hl ?_ (Int.add_one_le_of_lt hplace)).symm
    rw [hexact, toRat_mk]
    split
    · rw [neg_one_mul, neg_one_mul, neg_mul]
      exact hhalf.neg
    · rw [one_mul, one_mul]
      exact hhalf

end Quotient

/-- A quotient is the exact quotient, rounded once. -/
theorem map_toRat_div? (hl : l.Proper) (a : Decimal) (hb : b.isZero = false) :
    (div? l a b).map toRat = l.round? (a.toRat / b.toRat) := by
  unfold div?
  rw [if_neg (by simp [hb])]
  cases ha : a.isZero with
  | true =>
    rw [if_pos rfl, map_toRat_fit? hl, toRat_mk, toRat_of_isZero ha, Nat.cast_zero, mul_zero, zero_mul,
      zero_div]
  | false =>
    simp only [Bool.false_eq_true, if_false]
    rw [map_toRat_fit? hl, round?_cutQuotient ha hb hl.precision]

end Decimal
end ReceiptTemplate
