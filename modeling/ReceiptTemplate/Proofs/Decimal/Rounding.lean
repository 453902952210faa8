import Mathlib.Algebra.Group.Nat.Defs
import Mathlib.Tactic.ByContra
import ReceiptTemplate.Decimal.Rounding

/-!
# Rounded decimals — where the leading digit of a rounded number stands

Rounding leaves the leading digit of a number at its place or moves it up by one, unless nothing is
left of the number.  From this follows when rounding within limits gives a number: exactly when the
rounded number itself fits them.
-/

namespace ReceiptTemplate
namespace Decimal

variable {tie : Tie} {places : Nat} {d r : Decimal} {l : Limits}

/-! ## Digit counts -/

theorem digitCount_pos (n : Nat) : 0 < digitCount n :=
  Nat.length_toDigits_pos

theorem digitCount_le_iff {n k : Nat} (hk : 0 < k) : digitCount n ≤ k ↔ n < 10 ^ k :=
  Nat.length_toDigits_le_iff (by decide) hk

theorem lt_pow_digitCount (n : Nat) : n < 10 ^ digitCount n :=
  (digitCount_le_iff (digitCount_pos n)).1 (Nat.le_refl _)

theorem digitCount_mono {m n : Nat} (h : m ≤ n) : digitCount m ≤ digitCount n :=
  (digitCount_le_iff (digitCount_pos n)).2 (Nat.lt_of_le_of_lt h (lt_pow_digitCount n))

theorem pow_le_of_lt_digitCount {n k : Nat} (hn : n ≠ 0) (hk : k < digitCount n) : 10 ^ k ≤ n := by
  by_contra hlt
  cases k with
  | zero => omega
  | succ k =>
    have hle := (digitCount_le_iff (Nat.succ_pos k)).2 (Nat.lt_of_not_le hlt)
    omega

theorem digitCount_eq_of_lt {n k : Nat} (hlo : 10 ^ k ≤ n) (hhi : n < 10 ^ (k + 1)) :
    digitCount n = k + 1 := by
  have hle : digitCount n ≤ k + 1 := (digitCount_le_iff (Nat.succ_pos k)).2 hhi
  have hnot : ¬digitCount n ≤ k := by
    intro h
    -- With no more than `k` digits the number would lie below `10 ^ k`.
    cases k with
    | zero => exact absurd (digitCount_pos n) (Nat.not_lt.2 h)
    | succ k => exact absurd ((digitCount_le_iff (Nat.succ_pos k)).1 h) (Nat.not_lt.2 hlo)
  omega

/-- Cutting off low digits leaves the others. -/
theorem digitCount_div_pow {n k : Nat} (hn : n ≠ 0) (hk : k < digitCount n) :
    digitCount (n / 10 ^ k) = digitCount n - k := by
  obtain ⟨m, hm⟩ : ∃ m, digitCount n = k + (m + 1) := ⟨digitCount n - k - 1, by omega⟩
  have hlo : 10 ^ (k + m) ≤ n := pow_le_of_lt_digitCount hn (by omega)
  have hhi : n < 10 ^ (k + (m + 1)) := hm ▸ lt_pow_digitCount n
  have hcount : digitCount (n / 10 ^ k) = m + 1 := by
    refine digitCount_eq_of_lt ?_ ?_
    · rw [Nat.le_div_iff_mul_le (Nat.pow_pos (by decide)), ← Nat.pow_add, Nat.add_comm]
      exact hlo
    · rw [Nat.div_lt_iff_lt_mul (Nat.pow_pos (by decide)), ← Nat.pow_add, Nat.add_comm _ k]
      exact hhi
  omega

/-- One more unit makes a number longer by one digit at most. -/
theorem digitCount_succ_le (n : Nat) : digitCount (n + 1) ≤ digitCount n + 1 := by
  rw [digitCount_le_iff (Nat.succ_pos _)]
  have hlt := lt_pow_digitCount n
  have hpow : 10 ^ (digitCount n + 1) = 10 ^ digitCount n * 10 := Nat.pow_succ ..
  omega

/-! ## Rounded quotients -/

theorem div_le_roundQuotient (tie : Tie) (n m : Nat) : n / m ≤ roundQuotient tie n m := by
  unfold roundQuotient
  dsimp only
  split
  · exact Nat.le_refl _
  · split
    · exact Nat.le_succ _
    · cases tie with
      | awayFromZero => exact Nat.le_succ _
      | toEven =>
        dsimp only
        split
        · exact Nat.le_refl _
        · exact Nat.le_succ _

theorem roundQuotient_le_succ (tie : Tie) (n m : Nat) : roundQuotient tie n m ≤ n / m + 1 := by
  unfold roundQuotient
  dsimp only
  split
  · exact Nat.le_succ _
  · split
    · exact Nat.le_refl _
    · cases tie with
      | awayFromZero => exact Nat.le_refl _
      | toEven =>
        dsimp only
        split
        · exact Nat.le_succ _
        · exact Nat.le_refl _

theorem roundQuotient_zero (m : Nat) (hm : 0 < m) : roundQuotient tie 0 m = 0 := by
  have hmul := roundQuotient_mul (n := 0) tie hm
  rwa [Nat.zero_mul] at hmul

/-! ## Rounded numbers -/

theorem isZero_iff : d.isZero = true ↔ d.coefficient = 0 := by
  simp [isZero]

theorem isZero_eq_false_iff : d.isZero = false ↔ d.coefficient ≠ 0 := by
  simp [isZero]

/-- No digit of a rounded number stands below its places. -/
theorem le_exponent_roundPlaces (tie : Tie) (places : Nat) (d : Decimal) :
    -(places : Int) ≤ (d.roundPlaces tie places).exponent := by
  unfold roundPlaces
  split
  · assumption
  · exact Int.le_refl _

theorem roundPlaces_of_le (h : -(places : Int) ≤ d.exponent) : d.roundPlaces tie places = d :=
  if_pos h

/-- A zero is rounded to zero. -/
theorem isZero_roundPlaces (tie : Tie) (places : Nat) (h : d.isZero = true) :
    (d.roundPlaces tie places).isZero = true := by
  unfold roundPlaces
  split
  · exact h
  · rw [isZero_iff] at h ⊢
    dsimp only
    unfold roundCoefficient
    split
    · rfl
    · rw [h]
      exact roundQuotient_zero _ (Nat.pow_pos (by decide))

section Nonzero

variable (hd : d.isZero = false)

include hd

/-- The leading digit of a rounded number stands where that of the number stood, or one place above;
nothing is left only of a number that lies below the last place. -/
theorem roundPlaces_cases (tie : Tie) (places : Nat) :
    (d.adjusted < -(places : Int) ∧ (d.roundPlaces tie places).isZero = true ∧
        (d.roundPlaces tie places).adjusted = -places) ∨
      ((d.roundPlaces tie places).isZero = false ∧
        d.adjusted ≤ (d.roundPlaces tie places).adjusted ∧
        (d.roundPlaces tie places).adjusted ≤ d.adjusted + 1) := by
  by_cases hexp : -(places : Int) ≤ d.exponent
  · rw [roundPlaces_of_le hexp]
    exact .inr ⟨hd, Int.le_refl _, by omega⟩
  rw [isZero_eq_false_iff] at hd
  obtain ⟨k, hk⟩ : ∃ k : Nat, -(places : Int) = d.exponent + k :=
    ⟨(-(places : Int) - d.exponent).toNat, by omega⟩
  have hround : d.roundPlaces tie places
      = ⟨d.negative, d.roundCoefficient tie (-places), -places⟩ := if_neg hexp
  have htoNat : (-(places : Int) - d.exponent).toNat = k := by omega
  have hzeroCount : digitCount 0 = 1 := rfl
  rw [hround]
  by_cases hsmall : d.adjusted + 1 < -(places : Int)
  · -- The number lies so far below the last place that nothing is rounded up.
    have hnone : d.roundCoefficient tie (-places) = 0 := if_pos hsmall
    rw [hnone]
    exact .inl ⟨by omega, rfl, by simp only [adjusted]; omega⟩
  have hcoefficient : d.roundCoefficient tie (-places)
      = roundQuotient tie d.coefficient (10 ^ k) := by
    rw [roundCoefficient, if_neg hsmall, htoNat]
    rfl
  have hlo := div_le_roundQuotient tie d.coefficient (10 ^ k)
  have hhi := roundQuotient_le_succ tie d.coefficient (10 ^ k)
  rw [hcoefficient]
  generalize roundQuotient tie d.coefficient (10 ^ k) = q at hlo hhi ⊢
  simp only [adjusted] at hsmall ⊢
  by_cases hlt : k < digitCount d.coefficient
  · -- Digits are left above the last place, and rounding adds one to them at most.
    have hcount := digitCount_div_pow hd hlt
    have hpos : 10 ^ 0 ≤ d.coefficient / 10 ^ k := by
      rw [Nat.pow_zero, Nat.le_div_iff_mul_le (Nat.pow_pos (by decide)), Nat.one_mul]
      exact pow_le_of_lt_digitCount hd hlt
    have hmin := digitCount_mono hlo
    have hmax := Nat.le_trans (digitCount_mono hhi) (digitCount_succ_le _)
    refine .inr ⟨?_, by omega, by omega⟩
    rw [isZero_eq_false_iff]
    show q ≠ 0
    omega
  · -- The whole number lies just below the last place.
    have hzero : d.coefficient / 10 ^ k = 0 := by
      apply Nat.div_eq_of_lt
      exact Nat.lt_of_lt_of_le (lt_pow_digitCount _)
        (Nat.pow_le_pow_right (by decide) (Nat.le_of_not_lt hlt))
    rw [hzero] at hhi
    have hq : q = 0 ∨ q = 1 := by omega
    rcases hq with rfl | rfl
    · exact .inl ⟨by omega, rfl, by omega⟩
    · have hone : digitCount 1 = 1 := rfl
      exact .inr ⟨rfl, by omega, by omega⟩

end Nonzero

/-! ## Rounding within limits -/

/-- Whether a number with `places` decimal places fits the limits. -/
def FitsAt (l : Limits) (places : Nat) (d : Decimal) : Prop :=
  d.isZero = true ∨ (d.adjusted ≤ l.emax ∧ d.adjusted + places + 1 ≤ l.precision)

/-- Rounding within limits gives the rounded number exactly when that number fits. -/
theorem roundWithin?_eq_some_iff (hmax : 0 ≤ l.emax) :
    roundWithin? l tie places d = some r ↔
      r = d.roundPlaces tie places ∧ FitsAt l places (d.roundPlaces tie places) := by
  unfold roundWithin?
  dsimp only
  cases hd : d.isZero with
  | true =>
    have hzero := isZero_roundPlaces tie places hd
    simp only [if_true, Option.some.injEq, FitsAt, hzero, true_or, and_true]
    exact eq_comm
  | false =>
    simp only [Bool.false_eq_true, if_false]
    rcases roundPlaces_cases hd tie places with ⟨hsmall, hzero, -⟩ | ⟨hne, hlo, hhi⟩
    · -- What is rounded to zero fits, however few digits the limits leave.
      have hfits : ¬((decide (l.emax < d.adjusted) ||
          decide (l.precision < (d.adjusted + places + 1).toNat)) = true) := by
        simp only [Bool.or_eq_true, decide_eq_true_eq]
        omega
      rw [if_neg hfits]
      simp only [hzero, Bool.not_true, Bool.false_and, Bool.false_eq_true, if_false,
        Option.some.injEq, FitsAt, true_or, and_true]
      exact eq_comm
    · simp only [hne, Bool.not_false, Bool.true_and, Bool.or_eq_true, decide_eq_true_eq, FitsAt,
        Bool.false_eq_true, false_or]
      split
      · simp only [reduceCtorEq, false_iff]
        omega
      · split
        · simp only [reduceCtorEq, false_iff]
          omega
        · simp only [Option.some.injEq]
          constructor
          · rintro rfl
            exact ⟨rfl, by omega, by omega⟩
          · exact fun h => h.1.symm

/-- Rounding within limits gives the rounded number if it fits, and nothing otherwise. -/
theorem roundWithin?_cases (hmax : 0 ≤ l.emax) (tie : Tie) (places : Nat) (d : Decimal) :
    (FitsAt l places (d.roundPlaces tie places) ∧
        roundWithin? l tie places d = some (d.roundPlaces tie places)) ∨
      (¬FitsAt l places (d.roundPlaces tie places) ∧ roundWithin? l tie places d = none) := by
  by_cases hfits : FitsAt l places (d.roundPlaces tie places)
  · exact .inl ⟨hfits, (roundWithin?_eq_some_iff hmax).2 ⟨rfl, hfits⟩⟩
  · refine .inr ⟨hfits, ?_⟩
    rw [Option.eq_none_iff_forall_ne_some]
    intro r hr
    exact hfits ((roundWithin?_eq_some_iff hmax).1 hr).2

/-- What a rounded number needs to fit, if it was not zero before. -/
theorem fitsAt_roundPlaces_iff (hmax : 0 ≤ l.emax) (hprecision : 0 < l.precision)
    (hd : d.isZero = false) :
    FitsAt l places (d.roundPlaces tie places) ↔
      (d.roundPlaces tie places).adjusted ≤ l.emax ∧
        (d.roundPlaces tie places).adjusted + places < l.precision := by
  rcases roundPlaces_cases hd tie places with ⟨-, hzero, hadjusted⟩ | ⟨hne, -, -⟩
  · rw [FitsAt, hadjusted]
    simp only [hzero, true_or, true_iff]
    omega
  · rw [FitsAt, hne]
    simp only [Bool.false_eq_true, false_or]
    omega

theorem fitsAt_roundPlaces_of_isZero (hd : d.isZero = true) :
    FitsAt l places (d.roundPlaces tie places) :=
  .inl (isZero_roundPlaces _ _ hd)

/-! ## Trailing zeros -/

theorem dropZeros_spec (limit n : Nat) :
    n = (dropZeros limit n).1 * 10 ^ (dropZeros limit n).2 ∧
      ((dropZeros limit n).2 = limit ∨ (dropZeros limit n).1 % 10 ≠ 0) := by
  induction limit generalizing n with
  | zero => exact ⟨(Nat.mul_one n).symm, .inl rfl⟩
  | succ limit ih =>
    unfold dropZeros
    split
    · next hzero =>
      rcases ih (n / 10) with ⟨hmul, hend⟩
      have hn : n = n / 10 * 10 := by omega
      constructor
      · calc n = n / 10 * 10 := hn
          _ = (dropZeros limit (n / 10)).1 * 10 ^ (dropZeros limit (n / 10)).2 * 10 := by
              rw [← hmul]
          _ = (dropZeros limit (n / 10)).1 * 10 ^ ((dropZeros limit (n / 10)).2 + 1) := by
              rw [Nat.pow_succ, ← Nat.mul_assoc]
      · rcases hend with hlimit | hdigit
        · exact .inl (congrArg (· + 1) hlimit)
        · exact .inr hdigit
    · next hdigit => exact ⟨(Nat.mul_one n).symm, .inr hdigit⟩

theorem digitCount_mul_pow {n : Nat} (hn : n ≠ 0) (k : Nat) :
    digitCount (n * 10 ^ k) = digitCount n + k := by
  obtain ⟨m, hm⟩ : ∃ m, digitCount n = m + 1 := Nat.exists_eq_add_one.2 (digitCount_pos n)
  have hlo : 10 ^ m ≤ n := pow_le_of_lt_digitCount hn (by omega)
  have hhi : n < 10 ^ (m + 1) := hm ▸ lt_pow_digitCount n
  rw [hm, Nat.add_right_comm]
  refine digitCount_eq_of_lt ?_ ?_
  · rw [Nat.pow_add]
    exact Nat.mul_le_mul_right _ hlo
  · rw [Nat.add_right_comm, Nat.pow_add]
    exact Nat.mul_lt_mul_of_pos_right hhi (Nat.pow_pos (by decide))

/-- What is left of a number without its trailing zeros: the leading digit stays, and the last digit
is not zero. -/
theorem normalize_spec (hd : d.isZero = false) :
    d.normalize.coefficient % 10 ≠ 0 ∧ d.normalize.adjusted = d.adjusted ∧
      d.exponent ≤ d.normalize.exponent := by
  rcases dropZeros_spec (digitCount d.coefficient) d.coefficient with ⟨hmul, hend⟩
  rw [normalize, if_neg (by simp [hd])]
  rw [isZero_eq_false_iff] at hd
  dsimp only [adjusted]
  generalize (dropZeros (digitCount d.coefficient) d.coefficient).1 = n at hmul hend ⊢
  generalize (dropZeros (digitCount d.coefficient) d.coefficient).2 = k at hmul hend ⊢
  have hn : n ≠ 0 := by
    rintro rfl
    rw [Nat.zero_mul] at hmul
    exact hd hmul
  have hcount : digitCount d.coefficient = digitCount n + k := by
    rw [hmul]
    exact digitCount_mul_pow hn k
  refine ⟨?_, by omega, by omega⟩
  rcases hend with hlimit | hdigit
  · -- All digits would have been zeros.
    have hpos := digitCount_pos n
    omega
  · exact hdigit

theorem normalize_of_mod (h : d.coefficient % 10 ≠ 0) : d.normalize = d := by
  have hd : d.isZero = false := by
    rw [isZero_eq_false_iff]
    rintro hzero
    exact h (by rw [hzero])
  obtain ⟨m, hm⟩ : ∃ m, digitCount d.coefficient = m + 1 :=
    Nat.exists_eq_add_one.2 (digitCount_pos d.coefficient)
  simp [normalize, hd, hm, dropZeros, h]

theorem normalize_of_isZero (h : d.isZero = true) : d.normalize = ⟨d.negative, 0, 0⟩ :=
  if_pos h

end Decimal
end ReceiptTemplate
