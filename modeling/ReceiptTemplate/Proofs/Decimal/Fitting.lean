import ReceiptTemplate.Proofs.Decimal.HalfEven

/-!
# Fitting into limits — rounding to a precision within a range of exponents

Within limits a number keeps as many digits as the precision holds, and fewer where its last digit
would stand below the lowest exponent.  `Limits.round?` is that rule on rational numbers: it rounds half-even
at the last place that is kept, and refuses a result that reaches the power of ten above the largest
exponent.  `fit?` is the same rule on decimals.
-/

namespace ReceiptTemplate
namespace Decimal

/-! ## The rule on values -/

namespace Limits

variable {l : Limits} {x y : ℚ} {e k : ℤ}

/-- The place of the last digit that is kept of a number. -/
def lastPlace (l : Limits) (x : ℚ) : ℤ :=
  max (Int.log 10 |x| + 1 - l.precision) l.etiny

/-- The number rounded half-even to the digits that are kept of it. -/
def round (l : Limits) (x : ℚ) : ℚ :=
  roundAt (l.lastPlace x) x

/-- The rounded number; none if its magnitude is beyond the largest exponent. -/
def round? (l : Limits) (x : ℚ) : Option ℚ :=
  if |l.round x| < 10 ^ (l.emax + 1) then some (l.round x) else none

/-- There is a precision, and the range of exponents is not empty. -/
structure Proper (l : Limits) : Prop where
  precision : 0 < l.precision
  range : l.emin ≤ l.emax

theorem proper_standard : standard.Proper :=
  ⟨by decide, by decide⟩

theorem round?_zero (l : Limits) : l.round? 0 = some 0 := by
  have hround : l.round 0 = 0 := roundAt_zero _
  rw [round?, hround, abs_zero, if_pos (ten_zpow_pos _)]

/-- The last place by the powers of ten around the number. -/
theorem lastPlace_eq_iff (hx : x ≠ 0) :
    l.lastPlace x = e ↔ l.etiny ≤ e ∧ |x| < 10 ^ (e + l.precision) ∧
      (e = l.etiny ∨ ¬|x| < 10 ^ (e + l.precision - 1)) := by
  have hpos : 0 < |x| := abs_pos.2 hx
  have hlog (k : ℤ) : |x| < 10 ^ k ↔ Int.log 10 |x| < k := by
    exact_mod_cast Int.lt_zpow_iff_log_lt (b := 10) (by decide) hpos
  rw [hlog, hlog, lastPlace]
  omega

theorem le_lastPlace (l : Limits) (h : 10 ^ k ≤ |x|) : k + 1 - l.precision ≤ l.lastPlace x := by
  have hpos : 0 < |x| := lt_of_lt_of_le (ten_zpow_pos k) h
  have hlog : k ≤ Int.log 10 |x| := (Int.zpow_le_iff_le_log (by decide) hpos).1 (by exact_mod_cast h)
  rw [lastPlace]
  omega

/-- A power of ten is reached by rounding from half a unit of the last place below it on. -/
theorem ten_zpow_le_abs_round_iff (hl : 0 < l.precision) (hk : l.etiny ≤ k - l.precision) :
    10 ^ k ≤ |l.round x| ↔ 10 ^ k - 10 ^ (k - l.precision) / 2 ≤ |x| := by
  have hunit : (10 : ℚ) ^ (k - l.precision) ≤ 10 ^ (k - 1) :=
    zpow_le_zpow_right₀ (by norm_num) (by omega)
  have htenth : (10 : ℚ) ^ k = 10 * 10 ^ (k - 1) := by
    rw [mul_comm, ← zpow_add_one₀ (by norm_num), sub_add_cancel]
  have hpos := ten_zpow_pos (k - 1)
  rcases eq_or_ne x 0 with rfl | hx
  · have hzero : l.round 0 = 0 := roundAt_zero _
    rw [hzero, abs_zero]
    constructor <;> intro h <;> linarith
  have hlow : (10 : ℚ) ^ Int.log 10 |x| ≤ |x| := by
    exact_mod_cast Int.zpow_log_le_self (b := 10) (by decide) (abs_pos.2 hx)
  have hhigh : |x| < 10 ^ (Int.log 10 |x| + 1) := by
    exact_mod_cast Int.lt_zpow_succ_log_self (b := 10) (by decide) |x|
  have hplace : l.lastPlace x = max (Int.log 10 |x| + 1 - l.precision) l.etiny := rfl
  rw [round, abs_roundAt]
  rcases lt_trichotomy (Int.log 10 |x|) (k - 1) with hbelow | hleading | habove
  · -- A carry does not get beyond the power of ten below this one.
    have hle : |x| ≤ 10 ^ (k - 1) :=
      hhigh.le.trans (zpow_le_zpow_right₀ (by norm_num) (by omega))
    have hround := roundAt_le_ten_zpow (e := l.lastPlace x) (by omega) hle
    constructor <;> intro h <;> linarith
  · have hlast : l.lastPlace x = k - l.precision := by omega
    have hlastPos := ten_zpow_pos (k - l.precision)
    have hpow : (10 : ℚ) ^ k = (10 ^ l.precision : ℤ) * 10 ^ (k - l.precision) := by
      push_cast
      rw [← zpow_natCast, ← ten_zpow_add, add_sub_cancel]
    have heven : Even (10 ^ l.precision : ℤ) := (show Even (10 : ℤ) by decide).pow_of_ne_zero hl.ne'
    have hreach := even_le_roundHalfEven_iff (x := |x| / 10 ^ (k - l.precision)) heven
    rw [le_div_iff₀ hlastPos, sub_mul, ← hpow, one_div_mul_eq_div] at hreach
    rw [hlast, roundAt, ← hreach]
    conv_lhs => rw [hpow]
    rw [mul_le_mul_iff_left₀ hlastPos, Int.cast_le]
  · have hle : (10 : ℚ) ^ k ≤ 10 ^ Int.log 10 |x| := zpow_le_zpow_right₀ (by norm_num) (by omega)
    have hround := ten_zpow_le_roundAt (e := l.lastPlace x) (by omega) hlow
    exact iff_of_true (hle.trans hround) (by linarith [ten_zpow_pos (k - l.precision)])

/-- Numbers in the same half of a unit that is not kept are rounded alike. -/
theorem round_eq_of_sameHalf (hl : 0 < l.precision) (h : SameHalf e x y) (he : e ≤ l.lastPlace x) :
    l.round x = l.round y := by
  have hx := (lastPlace_eq_iff h.ne_zero).1 (rfl : l.lastPlace x = l.lastPlace x)
  have hplace : l.lastPlace y = l.lastPlace x := by
    rw [lastPlace_eq_iff h.symm.ne_zero, ← h.abs_lt_ten_zpow_iff (by omega),
      ← h.abs_lt_ten_zpow_iff (by omega)]
    exact hx
  rw [round, round, hplace]
  exact h.roundAt_eq he

theorem round?_eq_of_sameHalf (hl : 0 < l.precision) (h : SameHalf e x y) (he : e ≤ l.lastPlace x) :
    l.round? x = l.round? y := by
  rw [round?, round?, round_eq_of_sameHalf hl h he]

/-- A number of as many digits as the precision, none of them below the lowest exponent, is kept. -/
theorem round_intCast_mul {n : ℤ} (hn : |n| < 10 ^ l.precision) (he : l.etiny ≤ e) :
    l.round ((n : ℚ) * 10 ^ e) = n * 10 ^ e := by
  rcases eq_or_ne n 0 with rfl | hne
  · rw [Int.cast_zero, zero_mul]
    exact roundAt_zero _
  have hpow := ten_zpow_pos e
  have hcast : |(n : ℚ)| < 10 ^ l.precision := by exact_mod_cast hn
  have hlt : |(n : ℚ) * 10 ^ e| < 10 ^ (e + l.precision) := by
    rw [abs_mul, abs_of_pos hpow, ten_zpow_add, zpow_natCast, mul_comm]
    exact mul_lt_mul_of_pos_left hcast hpow
  have hpos : 0 < |(n : ℚ) * 10 ^ e| := abs_pos.2 (mul_ne_zero (by exact_mod_cast hne) hpow.ne')
  have hlog : Int.log 10 |(n : ℚ) * 10 ^ e| < e + l.precision :=
    (Int.lt_zpow_iff_log_lt (b := 10) (by decide) hpos).1 (by exact_mod_cast hlt)
  apply roundAt_intCast_mul
  rw [lastPlace]
  omega

end Limits

/-! ## The rule on decimals -/

variable {l : Limits} {d : Decimal} {e : ℤ}

theorem lastPlace_toRat (l : Limits) (hd : d.isZero = false) :
    l.lastPlace d.toRat = max (d.adjusted + 1 - l.precision) l.etiny := by
  rw [Limits.lastPlace, log_abs_toRat hd]

/-- The digits that are kept of a number. -/
def keptDigits (l : Limits) (d : Decimal) : ℕ :=
  d.roundCoefficient .toEven (l.lastPlace d.toRat)

section Nonzero

variable (hl : l.Proper) (hd : d.isZero = false)

include hd

/-- A number without digits below the last place is kept. -/
theorem round?_of_le_exponent (hmax : d.adjusted ≤ l.emax)
    (h : l.lastPlace d.toRat ≤ d.exponent) : l.round? d.toRat = some d.toRat := by
  have hround : l.round d.toRat = d.toRat := roundAt_of_le_exponent h
  have hlt : |d.toRat| < 10 ^ (l.emax + 1) := (abs_toRat_lt_iff hd).2 (by omega)
  rw [Limits.round?, hround, if_pos hlt]

include hl

/-- A leading digit beyond the largest exponent stays there. -/
theorem round?_of_emax_lt (h : l.emax < d.adjusted) : l.round? d.toRat = none := by
  have hprecision := hl.precision
  have hrange := hl.range
  have hplace : l.lastPlace d.toRat ≤ d.adjusted := by
    rw [lastPlace_toRat l hd, Limits.etiny]
    omega
  have hlow : (10 : ℚ) ^ d.adjusted ≤ |l.round d.toRat| := by
    rw [Limits.round, abs_roundAt]
    exact ten_zpow_le_roundAt hplace (le_abs_toRat hd)
  have hpow : (10 : ℚ) ^ (l.emax + 1) ≤ 10 ^ d.adjusted :=
    zpow_le_zpow_right₀ (by norm_num) (by omega)
  exact if_neg (not_lt.2 (hpow.trans hlow))

section Rounded

variable (h : d.exponent < l.lastPlace d.toRat)

include h

omit hl hd in
theorem keptDigits_mul : (keptDigits l d : ℚ) * 10 ^ l.lastPlace d.toRat
    = roundAt (l.lastPlace d.toRat) d.abs.toRat :=
  roundCoefficient_mul_toEven h

omit hl hd in
theorem abs_round : |l.round d.toRat| = keptDigits l d * 10 ^ l.lastPlace d.toRat := by
  rw [keptDigits_mul h, Limits.round, abs_roundAt, abs_toRat, ← toRat_abs]

/-- Rounding leaves as many digits as the precision, or carries to the power of ten above them. -/
theorem keptDigits_eq_pow (hlong : ¬digitCount (keptDigits l d) ≤ l.precision) :
    keptDigits l d = 10 ^ l.precision := by
  have hle : roundAt (l.lastPlace d.toRat) d.abs.toRat
      ≤ 10 ^ (l.lastPlace d.toRat + l.precision) := by
    apply roundAt_le_ten_zpow (by omega)
    rw [toRat_abs, ← abs_toRat]
    apply ((abs_toRat_lt_iff hd).2 _).le
    rw [lastPlace_toRat l hd]
    omega
  have hupper : (keptDigits l d : ℚ) ≤ 10 ^ l.precision := by
    rw [← keptDigits_mul h, ten_zpow_add, zpow_natCast, mul_comm] at hle
    exact le_of_mul_le_mul_left hle (ten_zpow_pos _)
  have hlower : 10 ^ l.precision ≤ keptDigits l d := by
    rw [digitCount_le_iff hl.precision] at hlong
    exact Nat.le_of_not_lt hlong
  exact le_antisymm (by exact_mod_cast hupper) hlower

/-- After a carry the last digit is a zero, and the place above it is the last. -/
theorem round?_of_carry (hlong : ¬digitCount (keptDigits l d) ≤ l.precision) :
    l.round? d.toRat =
      if l.etop < l.lastPlace d.toRat + 1 then none
      else some (⟨d.negative, keptDigits l d / 10, l.lastPlace d.toRat + 1⟩ : Decimal).toRat := by
  have hpow := keptDigits_eq_pow hl hd h hlong
  obtain ⟨p, hp⟩ : ∃ p, l.precision = p + 1 := Nat.exists_eq_add_one.2 hl.precision
  have hcarry : ((keptDigits l d / 10 : ℕ) : ℚ) * 10 ^ (l.lastPlace d.toRat + 1)
      = roundAt (l.lastPlace d.toRat) d.abs.toRat := by
    have hdiv : keptDigits l d / 10 = 10 ^ p := by
      rw [hpow, hp, Nat.pow_succ, Nat.mul_div_cancel _ (by decide)]
    rw [← keptDigits_mul h, hdiv, hpow, hp, ten_zpow_add]
    push_cast
    ring
  have hmagnitude : |l.round d.toRat| = 10 ^ (l.lastPlace d.toRat + l.precision) := by
    rw [abs_round h, hpow, ten_zpow_add, zpow_natCast]
    push_cast
    ring
  have hover : |l.round d.toRat| < 10 ^ (l.emax + 1) ↔ ¬l.etop < l.lastPlace d.toRat + 1 := by
    rw [hmagnitude, zpow_lt_zpow_iff_right₀ (by norm_num), Limits.etop]
    omega
  have hround : l.round d.toRat = roundAt (l.lastPlace d.toRat) d.toRat := rfl
  by_cases hfull : l.etop < l.lastPlace d.toRat + 1
  · rw [if_pos hfull, Limits.round?, if_neg (mt hover.1 (not_not.2 hfull))]
  · rw [if_neg hfull, Limits.round?, if_pos (hover.2 hfull), hround, toRat_of_roundAt hcarry]

variable (hmax : d.adjusted ≤ l.emax)

include hmax

omit h in
theorem lastPlace_le_etop : l.lastPlace d.toRat ≤ l.etop := by
  have hrange := hl.range
  rw [lastPlace_toRat l hd]
  simp only [Limits.etiny, Limits.etop]
  omega

theorem round?_of_short (hshort : digitCount (keptDigits l d) ≤ l.precision) :
    l.round? d.toRat = some (⟨d.negative, keptDigits l d, l.lastPlace d.toRat⟩ : Decimal).toRat := by
  have htop := lastPlace_le_etop hl hd hmax
  have hcast : (keptDigits l d : ℚ) < 10 ^ l.precision := by
    exact_mod_cast (digitCount_le_iff hl.precision).1 hshort
  have hbelow : |l.round d.toRat| < 10 ^ (l.emax + 1) := by
    calc |l.round d.toRat| = 10 ^ l.lastPlace d.toRat * keptDigits l d := by
          rw [abs_round h, mul_comm]
      _ < 10 ^ l.lastPlace d.toRat * 10 ^ l.precision :=
          mul_lt_mul_of_pos_left hcast (ten_zpow_pos _)
      _ = 10 ^ (l.lastPlace d.toRat + l.precision) := by rw [ten_zpow_add, zpow_natCast]
      _ ≤ 10 ^ (l.emax + 1) := by
          apply zpow_le_zpow_right₀ (by norm_num)
          simp only [Limits.etop] at htop
          omega
  rw [Limits.round?, if_pos hbelow, toRat_of_roundAt (keptDigits_mul h)]
  rfl

end Rounded
end Nonzero

/-- Fitting a decimal into limits is rounding its value. -/
theorem map_toRat_fit? (hl : l.Proper) (d : Decimal) : (fit? l d).map toRat = l.round? d.toRat := by
  unfold fit?
  cases hd : d.isZero with
  | true =>
    have hzero : ({ d with exponent := min (max d.exponent l.etiny) l.emax } : Decimal).isZero = true := hd
    rw [if_pos rfl, Option.map_some, toRat_of_isZero hzero, toRat_of_isZero hd, Limits.round?_zero]
  | false =>
    have hplace := lastPlace_toRat l hd
    have hfull : (digitCount d.coefficient : ℤ) + d.exponent - l.precision
        = d.adjusted + 1 - l.precision := by
      simp only [adjusted]
      omega
    have hover : l.etop < d.adjusted + 1 - l.precision ↔ l.emax < d.adjusted := by
      rw [Limits.etop]
      omega
    simp only [Bool.false_eq_true, if_false, hfull, hover]
    rw [← hplace, ← keptDigits]
    by_cases hmax : l.emax < d.adjusted
    · rw [if_pos hmax, round?_of_emax_lt hl hd hmax]
      rfl
    have hle := Int.not_lt.1 hmax
    rw [if_neg hmax]
    by_cases hexact : l.lastPlace d.toRat ≤ d.exponent
    · rw [if_pos hexact, round?_of_le_exponent hd hle hexact]
      rfl
    have hlt := Int.not_le.1 hexact
    rw [if_neg hexact]
    by_cases hshort : digitCount (keptDigits l d) ≤ l.precision
    · have htop := lastPlace_le_etop hl hd hle
      rw [round?_of_short hl hd hlt hle hshort, if_pos hshort]
      dsimp only
      rw [if_neg (Int.not_lt.2 htop)]
      rfl
    · rw [round?_of_carry hl hd hlt hshort, if_neg hshort]
      dsimp only
      split <;> rfl

/-- A fitted decimal has no more digits than the precision. -/
theorem digitCount_of_fit? (hl : l.Proper) {r : Decimal} (h : fit? l d = some r) :
    digitCount r.coefficient ≤ l.precision := by
  have hprecision := hl.precision
  unfold fit? at h
  cases hd : d.isZero with
  | true =>
    rw [if_pos hd, Option.some.injEq] at h
    have hone : digitCount r.coefficient = 1 := by
      rw [← h, isZero_iff.1 hd]
      rfl
    omega
  | false =>
    have hfull : (digitCount d.coefficient : ℤ) + d.exponent - l.precision
        = d.adjusted + 1 - l.precision := by
      simp only [adjusted]
      omega
    simp only [hd, Bool.false_eq_true, if_false, hfull] at h
    rw [← lastPlace_toRat l hd, ← keptDigits] at h
    split at h
    · cases h
    split at h
    · next hexact =>
      cases h
      rw [lastPlace_toRat l hd, adjusted] at hexact
      omega
    · next hexact =>
      by_cases hshort : digitCount (keptDigits l d) ≤ l.precision
      · rw [if_pos hshort] at h
        dsimp only at h
        split at h
        · cases h
        · cases h
          exact hshort
      · rw [if_neg hshort] at h
        dsimp only at h
        split at h
        · cases h
        · cases h
          have hpow := keptDigits_eq_pow hl hd (Int.not_le.1 hexact) hshort
          rw [digitCount_le_iff hprecision, hpow]
          exact Nat.div_lt_self (Nat.pow_pos (by decide)) (by decide)

/-- A fitted decimal is the rounded number, and that is within the exponents. -/
theorem round_of_fit? (hl : l.Proper) {r : Decimal} (h : fit? l d = some r) :
    l.round d.toRat = r.toRat ∧ |r.toRat| < 10 ^ (l.emax + 1) := by
  have hvalue := map_toRat_fit? hl d
  rw [h, Option.map_some, Limits.round?] at hvalue
  split at hvalue
  · next hlt =>
    rw [Option.some.inj hvalue]
    exact ⟨rfl, hlt⟩
  · cases hvalue

theorem le_round_of_fit?_eq_none (hl : l.Proper) (h : fit? l d = none) :
    10 ^ (l.emax + 1) ≤ |l.round d.toRat| := by
  have hvalue := map_toRat_fit? hl d
  rw [h, Option.map_none, Limits.round?] at hvalue
  split at hvalue
  · cases hvalue
  · next hnot => exact not_lt.1 hnot

end Decimal
end ReceiptTemplate
