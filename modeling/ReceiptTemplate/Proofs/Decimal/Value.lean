import Mathlib.Algebra.Order.Field.Power
import Mathlib.Algebra.Order.Round
import Mathlib.Data.Rat.Floor
import Mathlib.Tactic.FieldSimp
import Mathlib.Tactic.Positivity
import Mathlib.Tactic.Ring
import ReceiptTemplate.Proofs.Decimal.Rounding

/-!
# Values of decimals — the rational number that a decimal stands for

Decimals differ in their scale and in the sign of zero, and `toRat` forgets both.  Rounding to places
is rounding of the value, lowering the exponent and dropping trailing zeros keep it, and the place of
the leading digit says between which powers of ten its magnitude lies.
-/

namespace ReceiptTemplate

/-- The multiple of `10^(-places)` nearest to a number; halfway between two of them it is the one that
lies farther from zero. -/
def roundHalfAway (places : Nat) (x : ℚ) : ℚ :=
  ((if x < 0 then -round (-x * 10 ^ places) else round (x * 10 ^ places) : ℤ) : ℚ) / 10 ^ places

theorem exists_roundHalfAway_eq (places : Nat) (x : ℚ) :
    ∃ n : ℤ, roundHalfAway places x = n * 10 ^ (-places : ℤ) := by
  have hinv : (10 : ℚ) ^ (-places : ℤ) = (10 ^ places)⁻¹ := by rw [zpow_neg, zpow_natCast]
  rw [hinv]
  exact ⟨_, div_eq_mul_inv _ _⟩

theorem roundHalfAway_of_nonneg (places : Nat) {x : ℚ} (h : 0 ≤ x) :
    roundHalfAway places x = round (x * 10 ^ places) / 10 ^ places := by
  rw [roundHalfAway, if_neg (not_lt.2 h)]

theorem roundHalfAway_neg (places : Nat) (x : ℚ) :
    roundHalfAway places (-x) = -roundHalfAway places x := by
  rcases lt_trichotomy x 0 with hneg | rfl | hpos
  · rw [roundHalfAway_of_nonneg places (neg_pos.2 hneg).le, roundHalfAway, if_pos hneg]
    push_cast
    ring
  · simp [roundHalfAway]
  · rw [roundHalfAway_of_nonneg places hpos.le, roundHalfAway, if_pos (neg_neg_iff_pos.2 hpos), neg_neg]
    push_cast
    ring

/-- A number without its fraction. -/
def wholePart (x : ℚ) : ℤ :=
  if x < 0 then ⌈x⌉ else ⌊x⌋

theorem wholePart_of_nonneg {x : ℚ} (h : 0 ≤ x) : wholePart x = ⌊x⌋ :=
  if_neg (not_lt.2 h)

@[simp] theorem wholePart_intCast (n : ℤ) : wholePart n = n := by
  simp [wholePart]

theorem wholePart_neg (x : ℚ) : wholePart (-x) = -wholePart x := by
  rcases lt_trichotomy x 0 with hneg | rfl | hpos
  · rw [wholePart_of_nonneg (neg_pos.2 hneg).le, wholePart, if_pos hneg, Int.floor_neg]
  · simp [wholePart]
  · rw [wholePart, if_pos (neg_neg_iff_pos.2 hpos), wholePart_of_nonneg hpos.le, Int.ceil_neg]

/-- Scaling a number takes as many places. -/
theorem roundHalfAway_mul_pow (places k : Nat) (x : ℚ) :
    roundHalfAway places (x * 10 ^ k) = roundHalfAway (places + k) x * 10 ^ k := by
  have hpos : (0 : ℚ) < 10 ^ k := by positivity
  have hsign : x * 10 ^ k < 0 ↔ x < 0 := by
    constructor
    · exact fun h => neg_of_mul_neg_left h hpos.le
    · exact fun h => mul_neg_of_neg_of_pos h hpos
  have hpow : (10 : ℚ) ^ (places + k) = 10 ^ places * 10 ^ k := pow_add _ _ _
  have hscaled (y : ℚ) : y * 10 ^ k * 10 ^ places = y * 10 ^ (places + k) := by
    rw [hpow]
    ring
  unfold roundHalfAway
  rw [← neg_mul, hscaled, hscaled, hpow]
  simp only [hsign]
  field_simp

namespace Decimal

variable {d : Decimal} {places : Nat} {e : Int}

/-! ## Values -/

/-- The number that a decimal stands for. -/
def toRat (d : Decimal) : ℚ :=
  if d.negative then -(d.coefficient * 10 ^ d.exponent) else d.coefficient * 10 ^ d.exponent

theorem toRat_abs (d : Decimal) : d.abs.toRat = d.coefficient * 10 ^ d.exponent :=
  rfl

theorem toRat_eq (d : Decimal) : d.toRat = if d.negative then -d.abs.toRat else d.abs.toRat :=
  rfl

theorem toRat_negate (d : Decimal) : d.negate.toRat = -d.toRat := by
  cases d with
  | mk negative n e => cases negative <;> simp [negate, toRat]

theorem abs_toRat (d : Decimal) : |d.toRat| = d.coefficient * 10 ^ d.exponent := by
  have hnonneg : (0 : ℚ) ≤ d.coefficient * 10 ^ d.exponent := by positivity
  unfold toRat
  split
  · rw [abs_neg, abs_of_nonneg hnonneg]
  · exact abs_of_nonneg hnonneg

theorem toRat_of_isZero (h : d.isZero = true) : d.toRat = 0 := by
  have hmagnitude : |d.toRat| = 0 := by
    rw [abs_toRat, isZero_iff.1 h]
    simp
  exact abs_eq_zero.1 hmagnitude

/-! ## Lower exponents -/

/-- The equal number with a lower exponent. -/
def lowerTo (e : Int) (d : Decimal) : Decimal :=
  ⟨d.negative, d.coefficientAt e, e⟩

theorem coefficientAt_cast (h : e ≤ d.exponent) :
    (d.coefficientAt e : ℚ) * 10 ^ e = d.coefficient * 10 ^ d.exponent := by
  obtain ⟨k, hk⟩ : ∃ k : Nat, d.exponent = e + k := ⟨(d.exponent - e).toNat, by omega⟩
  have htoNat : (d.exponent - e).toNat = k := by omega
  have hpow : (10 : ℚ) ^ d.exponent = 10 ^ e * 10 ^ k := by
    rw [hk, zpow_add₀ (by norm_num), zpow_natCast]
  have hcoefficient : d.coefficientAt e = d.coefficient * 10 ^ k := by
    rw [coefficientAt, htoNat]
    rfl
  rw [hcoefficient, hpow]
  push_cast
  ring

theorem toRat_lowerTo (h : e ≤ d.exponent) : (d.lowerTo e).toRat = d.toRat := by
  have hcast := coefficientAt_cast h
  simp only [toRat, lowerTo, hcast]

/-! ## Rounding -/

theorem roundQuotient_awayFromZero (n : Nat) {m : Nat} (hm : 0 < m) :
    roundQuotient .awayFromZero n m = (2 * n + m) / (2 * m) := by
  have hsplit : 2 * n + m = 2 * (n % m) + m + 2 * m * (n / m) := by
    have hn := Nat.div_add_mod n m
    calc 2 * n + m = 2 * (m * (n / m) + n % m) + m := by rw [hn]
      _ = 2 * (n % m) + m + 2 * m * (n / m) := by ring
  have hlt : n % m < m := Nat.mod_lt n hm
  rw [hsplit, Nat.add_mul_div_left _ _ (by omega)]
  unfold roundQuotient
  dsimp only
  split
  · have hzero : (2 * (n % m) + m) / (2 * m) = 0 := Nat.div_eq_of_lt (by omega)
    rw [hzero, Nat.zero_add]
  · have hone : (2 * (n % m) + m) / (2 * m) = 1 :=
      Nat.div_eq_of_lt_le (by omega) (by omega)
    rw [hone, Nat.add_comm]
    split <;> rfl

/-- On fractions `round` is the rounded quotient. -/
theorem round_div (n : Nat) {m : Nat} (hm : 0 < m) :
    round ((n : ℚ) / m) = (roundQuotient .awayFromZero n m : ℤ) := by
  have hmne : (m : ℚ) ≠ 0 := by exact_mod_cast hm.ne'
  have hhalf : (n : ℚ) / m + 1 / 2 = ((2 * n + m : ℕ) : ℚ) / ((2 * m : ℕ) : ℚ) := by
    push_cast
    field_simp
  rw [round_eq, hhalf, Rat.floor_natCast_div_natCast, roundQuotient_awayFromZero n hm]
  exact (Int.natCast_div _ _).symm

theorem roundCoefficient_awayFromZero (h : d.exponent < e) :
    d.roundCoefficient .awayFromZero e
      = roundQuotient .awayFromZero d.coefficient (10 ^ (e - d.exponent).toNat) := by
  unfold roundCoefficient
  split
  · next hsmall =>
    -- Less than a tenth of the unit is left, so the quotient is rounded to zero as well.
    have hcount : digitCount d.coefficient + 1 ≤ (e - d.exponent).toNat := by
      simp only [adjusted] at hsmall
      omega
    have hpow : 10 ^ (digitCount d.coefficient + 1) ≤ 10 ^ (e - d.exponent).toNat :=
      Nat.pow_le_pow_right (by decide) hcount
    have hlt := lt_pow_digitCount d.coefficient
    rw [Nat.pow_succ] at hpow
    rw [roundQuotient_awayFromZero _ (Nat.pow_pos (by decide)), Nat.div_eq_of_lt (by omega)]
  · rfl

theorem toRat_abs_roundPlaces (places : Nat) (d : Decimal) :
    (d.roundPlaces .awayFromZero places).abs.toRat = roundHalfAway places d.abs.toRat := by
  have hnonneg : 0 ≤ d.abs.toRat := by
    rw [toRat_abs]
    positivity
  have hplaces : (10 : ℚ) ^ (-(places : Int)) = (10 ^ places)⁻¹ := by
    rw [zpow_neg, zpow_natCast]
  rw [roundHalfAway_of_nonneg places hnonneg, toRat_abs d]
  by_cases hexp : -(places : Int) ≤ d.exponent
  · -- The number has no digits to drop, so that it is a whole multiple of the unit.
    have hwhole : (d.coefficient : ℚ) * 10 ^ d.exponent * 10 ^ places
        = (d.coefficientAt (-places) : ℕ) := by
      rw [← coefficientAt_cast hexp, hplaces]
      field_simp
    rw [roundPlaces_of_le hexp, hwhole, round_natCast, toRat_abs, ← coefficientAt_cast hexp, hplaces]
    push_cast
    ring
  · obtain ⟨k, hk⟩ : ∃ k : Nat, d.exponent = -(places : Int) - k :=
      ⟨(-(places : Int) - d.exponent).toNat, by omega⟩
    have htoNat : (-(places : Int) - d.exponent).toNat = k := by omega
    have hquotient : (d.coefficient : ℚ) * 10 ^ d.exponent * 10 ^ places
        = (d.coefficient : ℚ) / (10 ^ k : ℕ) := by
      rw [hk, zpow_sub₀ (by norm_num), hplaces, zpow_natCast]
      push_cast
      field_simp
    rw [hquotient, round_div _ (by positivity), roundPlaces, if_neg hexp,
      roundCoefficient_awayFromZero (by omega), htoNat, toRat_abs]
    dsimp only
    rw [hplaces, div_eq_mul_inv]
    norm_cast

/-- Rounding a decimal is rounding the number that it stands for. -/
theorem toRat_roundPlaces (places : Nat) (d : Decimal) :
    (d.roundPlaces .awayFromZero places).toRat = roundHalfAway places d.toRat := by
  have hsign : (d.roundPlaces .awayFromZero places).negative = d.negative := by
    unfold roundPlaces
    split <;> rfl
  rw [toRat_eq, toRat_eq d, hsign, toRat_abs_roundPlaces]
  split
  · exact (roundHalfAway_neg places d.abs.toRat).symm
  · rfl

/-! ## Magnitudes -/

theorem abs_toRat_lt (d : Decimal) : |d.toRat| < 10 ^ (d.adjusted + 1) := by
  have hlt : (d.coefficient : ℚ) < 10 ^ digitCount d.coefficient := by
    exact_mod_cast lt_pow_digitCount d.coefficient
  have hexp : d.adjusted + 1 = (digitCount d.coefficient : Int) + d.exponent := by
    simp only [adjusted]
    omega
  rw [abs_toRat, hexp, zpow_add₀ (by norm_num), zpow_natCast]
  exact mul_lt_mul_of_pos_right hlt (by positivity)

theorem le_abs_toRat (hd : d.isZero = false) : 10 ^ d.adjusted ≤ |d.toRat| := by
  obtain ⟨m, hm⟩ : ∃ m, digitCount d.coefficient = m + 1 :=
    Nat.exists_eq_add_one.2 (digitCount_pos d.coefficient)
  have hle : ((10 ^ m : ℕ) : ℚ) ≤ d.coefficient := by
    exact_mod_cast pow_le_of_lt_digitCount (isZero_eq_false_iff.1 hd) (by omega)
  have hexp : d.adjusted = (m : Int) + d.exponent := by
    simp only [adjusted]
    omega
  rw [abs_toRat, hexp, zpow_add₀ (by norm_num), zpow_natCast]
  push_cast at hle
  exact mul_le_mul_of_nonneg_right hle (by positivity)

theorem toRat_ne_zero (hd : d.isZero = false) : d.toRat ≠ 0 :=
  abs_pos.1 (lt_of_lt_of_le (by positivity) (le_abs_toRat hd))

theorem toRat_eq_zero_iff : d.toRat = 0 ↔ d.isZero = true :=
  ⟨fun h => by_contra fun hd => toRat_ne_zero (Bool.eq_false_iff.2 hd) h, toRat_of_isZero⟩

/-- A zero does not lie below zero, whatever its sign. -/
theorem isBelowZero_iff (d : Decimal) : d.isBelowZero = true ↔ d.toRat < 0 := by
  unfold isBelowZero
  cases hzero : d.isZero with
  | true => simp [isZero_iff.1 hzero, toRat_of_isZero hzero]
  | false =>
    have hpos : 0 < |d.toRat| := abs_pos.2 (toRat_ne_zero hzero)
    have hne := isZero_eq_false_iff.1 hzero
    rw [abs_toRat] at hpos
    cases hsign : d.negative <;> simp [toRat, hsign, hne, hpos, hpos.le]

/-- The leading digit says below which powers of ten a number lies. -/
theorem abs_toRat_lt_iff (hd : d.isZero = false) {k : Int} : |d.toRat| < 10 ^ k ↔ d.adjusted < k := by
  have hone : (1 : ℚ) < 10 := by norm_num
  constructor
  · intro hlt
    exact (zpow_lt_zpow_iff_right₀ hone).1 (lt_of_le_of_lt (le_abs_toRat hd) hlt)
  · intro hlt
    exact lt_of_lt_of_le (abs_toRat_lt d) ((zpow_le_zpow_iff_right₀ hone).2 hlt)

theorem abs_toRat_lt_pow_iff (d : Decimal) (k : Nat) :
    |d.toRat| < 10 ^ k ↔ d.isZero = true ∨ d.adjusted < k := by
  cases hd : d.isZero with
  | true =>
    rw [toRat_of_isZero hd, abs_zero]
    exact iff_of_true (by positivity) (.inl rfl)
  | false =>
    rw [← zpow_natCast, abs_toRat_lt_iff hd]
    simp

/-! ## Trailing zeros -/

theorem dropZeros_mul_pow {n : Nat} (hn : n % 10 ≠ 0) {k limit : Nat} (h : k ≤ limit) :
    dropZeros limit (n * 10 ^ k) = (n, k) := by
  induction k generalizing limit with
  | zero =>
    cases limit with
    | zero => simp [dropZeros]
    | succ limit => simp [dropZeros, hn]
  | succ k ih =>
    obtain ⟨limit, rfl⟩ : ∃ m, limit = m + 1 := ⟨limit - 1, by omega⟩
    have hmul : n * 10 ^ (k + 1) = n * 10 ^ k * 10 := by rw [Nat.pow_succ, ← Nat.mul_assoc]
    rw [dropZeros, hmul, if_pos (Nat.mul_mod_left _ _), Nat.mul_div_cancel _ (by decide),
      ih (by omega)]

/-- A number that ends in `k` zeros without them. -/
theorem normalize_mul_pow (negative : Bool) {n : Nat} (hn : n % 10 ≠ 0) (k : Nat) (e : Int) :
    (⟨negative, n * 10 ^ k, e⟩ : Decimal).normalize = ⟨negative, n, e + k⟩ := by
  have hne : n ≠ 0 := by
    rintro rfl
    exact hn rfl
  have hzero : (⟨negative, n * 10 ^ k, e⟩ : Decimal).isZero = false := by
    rw [isZero_eq_false_iff]
    exact Nat.mul_ne_zero hne (Nat.pow_pos (by decide)).ne'
  have hlimit : k ≤ digitCount (n * 10 ^ k) := by
    rw [digitCount_mul_pow hne]
    exact Nat.le_add_left _ _
  rw [normalize, if_neg (by simp [hzero])]
  dsimp only
  rw [dropZeros_mul_pow hn hlimit]

theorem toRat_normalize (d : Decimal) : d.normalize.toRat = d.toRat := by
  cases hd : d.isZero with
  | true =>
    rw [normalize_of_isZero hd, toRat_of_isZero hd]
    exact toRat_of_isZero rfl
  | false =>
    have hdrop := (dropZeros_spec (digitCount d.coefficient) d.coefficient).1
    have hvalue : ((dropZeros (digitCount d.coefficient) d.coefficient).1 : ℚ) *
        10 ^ (d.exponent + (dropZeros (digitCount d.coefficient) d.coefficient).2)
          = d.coefficient * 10 ^ d.exponent := by
      conv_rhs => rw [hdrop]
      rw [zpow_add₀ (by norm_num), zpow_natCast]
      push_cast
      ring
    rw [normalize, if_neg (by simp [hd]), toRat, toRat]
    dsimp only
    rw [hvalue]

theorem exists_eq_mul_pow (d : Decimal) (hd : d.isZero = false) :
    ∃ n k, n % 10 ≠ 0 ∧ d.coefficient = n * 10 ^ k := by
  rcases dropZeros_spec (digitCount d.coefficient) d.coefficient with ⟨hmul, -⟩
  have hdigit := (normalize_spec hd).1
  rw [normalize, if_neg (by simp [hd])] at hdigit
  exact ⟨_, _, hdigit, hmul⟩

/-- At a lower exponent the number has the same digits as without its trailing zeros. -/
theorem coefficientAt_normalize (h : e ≤ d.exponent) :
    d.normalize.coefficientAt e = d.coefficientAt e := by
  cases hd : d.isZero with
  | true =>
    rw [normalize_of_isZero hd, coefficientAt, coefficientAt, isZero_iff.1 hd, Nat.zero_mul,
      Nat.zero_mul]
  | false =>
    rcases exists_eq_mul_pow d hd with ⟨n, k, hn, hmul⟩
    obtain ⟨j, hj⟩ : ∃ j : Nat, d.exponent = e + j := ⟨(d.exponent - e).toNat, by omega⟩
    have hself : d = ⟨d.negative, n * 10 ^ k, d.exponent⟩ := by rw [← hmul]
    have hlow : (d.exponent - e).toNat = j := by omega
    have hhigh : (d.exponent + k - e).toNat = k + j := by omega
    rw [hself, normalize_mul_pow d.negative hn, coefficientAt, coefficientAt]
    dsimp only
    rw [hlow, hhigh, Nat.mul_assoc]
    exact congrArg (n * ·) (Nat.pow_add 10 k j)

theorem normalize_lowerTo (h : e ≤ d.exponent) : (d.lowerTo e).normalize = d.normalize := by
  cases hd : d.isZero with
  | true =>
    have hzero : (d.lowerTo e).isZero = true := by
      rw [isZero_iff] at hd ⊢
      simp [lowerTo, coefficientAt, hd]
    rw [normalize_of_isZero hd, normalize_of_isZero hzero]
    rfl
  | false =>
    rcases exists_eq_mul_pow d hd with ⟨n, k, hn, hmul⟩
    have hcoefficient : d.coefficientAt e = n * 10 ^ (k + (d.exponent - e).toNat) := by
      rw [coefficientAt, hmul, Nat.pow_add, ← Nat.mul_assoc]
      rfl
    have hself : d = ⟨d.negative, n * 10 ^ k, d.exponent⟩ := by rw [← hmul]
    rw [lowerTo, hcoefficient, normalize_mul_pow d.negative hn, hself,
      normalize_mul_pow d.negative hn]
    dsimp only
    congr 1
    omega

/-! ## Whole numbers -/

theorem isWhole_of_nonneg (h : 0 ≤ d.exponent) : d.isWhole = true := by
  simp [isWhole, h]

theorem wholeAbs_of_nonneg (h : 0 ≤ d.exponent) : d.wholeAbs = d.coefficient * 10 ^ d.exponent.toNat := by
  have hadjusted : ¬d.adjusted < 0 := by
    have hpos := digitCount_pos d.coefficient
    simp only [adjusted]
    omega
  rw [wholeAbs, if_neg hadjusted, if_pos h]
  rfl

theorem whole_of_nonneg (h : 0 ≤ d.exponent) : (d.whole : ℚ) = d.toRat := by
  obtain ⟨k, hk⟩ : ∃ k : Nat, d.exponent = k := ⟨d.exponent.toNat, by omega⟩
  unfold whole toRat
  rw [wholeAbs_of_nonneg h, hk, Int.toNat_natCast, zpow_natCast]
  split <;> push_cast <;> rfl

theorem wholeAbs_eq_floor (d : Decimal) : (d.wholeAbs : ℤ) = ⌊d.abs.toRat⌋ := by
  by_cases hexponent : 0 ≤ d.exponent
  · have hwhole : (d.wholeAbs : ℚ) = d.abs.toRat := whole_of_nonneg (d := d.abs) hexponent
    rw [← hwhole, Int.floor_natCast]
  · obtain ⟨k, hk⟩ : ∃ k : Nat, d.exponent = -k := ⟨(-d.exponent).toNat, by omega⟩
    have hvalue : d.abs.toRat = (d.coefficient : ℚ) / (10 ^ k : ℕ) := by
      rw [toRat_abs, hk, zpow_neg, zpow_natCast]
      push_cast
      rfl
    -- Below one the quotient is zero as well.
    have hwhole : d.wholeAbs = d.coefficient / 10 ^ k := by
      unfold wholeAbs
      split
      · next hsmall =>
        have hcount : digitCount d.coefficient ≤ k := by
          simp only [adjusted] at hsmall
          omega
        have hlt := (lt_pow_digitCount d.coefficient).trans_le (Nat.pow_le_pow_right (by decide) hcount)
        exact (Nat.div_eq_of_lt hlt).symm
      · rw [hk, neg_neg, Int.toNat_natCast]
        rfl
    rw [hvalue, Rat.floor_natCast_div_natCast, hwhole, Int.natCast_div]

theorem whole_eq (d : Decimal) : d.whole = wholePart d.toRat := by
  have hnonneg : 0 ≤ d.abs.toRat := by
    rw [toRat_abs]
    positivity
  rw [whole, wholeAbs_eq_floor, ← wholePart_of_nonneg hnonneg, toRat_eq d]
  split
  · rw [wholePart_neg]
  · rfl

/-! ## Limited precision -/

/-- A number within the limits is left as it is. -/
theorem fit?_of_fits {l : Limits} (hd : d.isZero = false)
    (hshort : digitCount d.coefficient ≤ l.precision) (hlow : l.etiny ≤ d.exponent)
    (hhigh : d.adjusted ≤ l.emax) : fit? l d = some d := by
  unfold fit?
  dsimp only
  rw [if_neg (by simp [hd]), if_neg, if_pos]
  · omega
  · simp only [adjusted, Limits.etop] at hhigh ⊢
    omega

end Decimal
end ReceiptTemplate
