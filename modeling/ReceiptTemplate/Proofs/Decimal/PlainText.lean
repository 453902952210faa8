import ReceiptTemplate.Decimal.Text
import ReceiptTemplate.Proofs.Decimal.Value
import ReceiptTemplate.Proofs.Text.Digits

/-!
# Plain notation — what is written of a number without a power of ten

A number without decimal places is written as the digits of its magnitude, and one with places has a point
in its text whatever the digits after it are.
-/

namespace ReceiptTemplate

theorem Text.digitsOf_mul_pow {n : Nat} (hn : n ≠ 0) (k : Nat) :
    digitsOf (n * 10 ^ k) = digitsOf n ++ List.replicate k '0' := by
  induction k with
  | zero => simp
  | succ k ih =>
    have hpos : 0 < n * 10 ^ k := Nat.mul_pos (Nat.pos_of_ne_zero hn) (Nat.pow_pos (by decide))
    have hshift : n * 10 ^ (k + 1) = 10 * (n * 10 ^ k) + 0 := by
      rw [Nat.pow_succ']
      ring
    calc digitsOf (n * 10 ^ (k + 1))
        = digitsOf (n * 10 ^ k) ++ digitsOf 0 := by
          rw [hshift]
          exact (Nat.toDigits_append_toDigits (by decide) hpos (by decide)).symm
      _ = digitsOf n ++ List.replicate (k + 1) '0' := by
          rw [ih, List.append_assoc, List.replicate_succ']
          rfl

namespace Decimal

open Text (digitsOf)

variable {d : Decimal}

/-- Without decimal places the magnitude is a whole number, and its digits are written. -/
theorem plainChars_of_nonneg (h : 0 ≤ d.exponent) : d.plainChars = digitsOf (d.coefficientAt 0) := by
  have hvalue : d.coefficientAt 0 = d.coefficient * 10 ^ d.exponent.toNat := by
    rw [coefficientAt, sub_zero]
    rfl
  unfold plainChars
  rw [if_pos h, hvalue]
  split
  · next hzero =>
    rw [hzero, Nat.zero_mul]
    rfl
  · next hne => exact (Text.digitsOf_mul_pow hne _).symm

theorem plain_of_nonneg (h : 0 ≤ d.exponent) :
    d.plain = String.ofList ((if d.isBelowZero then ['-'] else []) ++ digitsOf (d.coefficientAt 0)) := by
  rw [plain, plainChars_of_nonneg h]
  cases d.isBelowZero <;> rfl

/-- A number without decimal places is its magnitude, below zero if it has a sign. -/
theorem toRat_of_nonneg (h : 0 ≤ d.exponent) :
    d.toRat = ((if d.isBelowZero then -(d.coefficientAt 0 : Int) else d.coefficientAt 0 : Int) : ℚ) := by
  have hcast := coefficientAt_cast h
  rw [zpow_zero, mul_one] at hcast
  unfold toRat
  rw [← hcast, isBelowZero]
  cases d.negative with
  | false => simp
  | true =>
    -- A zero with a sign is not below zero, and its value is the same without it.
    by_cases hzero : d.coefficient = 0
    · simp [hzero, coefficientAt]
    · simp [hzero]

/-- The digits before and after the point, filled up with zeros in front. -/
structure PointSplit (d : Decimal) (whole fraction : List Char) : Prop where
  digits : ∀ c ∈ whole ++ fraction, c.isDigit = true
  value : Text.readDigits (whole ++ fraction) = d.coefficient
  length_whole : (whole.length : Int) = max 1 (d.adjusted + 1)
  length_fraction : (fraction.length : Int) = -d.exponent

/-- With decimal places the point stands before as many digits as there are places. -/
theorem plainChars_of_neg (h : d.exponent < 0) :
    ∃ whole fraction, d.plainChars = whole ++ '.' :: fraction ∧ d.PointSplit whole fraction := by
  obtain ⟨k, hk⟩ : ∃ k : Nat, d.exponent = -k := ⟨(-d.exponent).toNat, by omega⟩
  let padded := Text.padZeros (k + 1) (digitsOf d.coefficient)
  have hlength : padded.length = max (k + 1) (digitCount d.coefficient) := Text.length_padZeros _ _
  have hpos := digitCount_pos d.coefficient
  refine ⟨padded.take (padded.length - k), padded.drop (padded.length - k), ?_, ?_, ?_, ?_, ?_⟩
  · have hplaces : (-d.exponent).toNat = k := by omega
    have hne : k ≠ 0 := by omega
    unfold plainChars pointed
    rw [if_neg (Int.not_le.2 h), hplaces, if_neg hne]
  · rw [List.take_append_drop]
    exact fun c hc => Text.isDigit_of_mem_padZeros hc
  · rw [List.take_append_drop, Text.readDigits_padZeros]
  · rw [List.length_take, adjusted, hk]
    omega
  · rw [List.length_drop, hk]
    omega

theorem PointSplit.ne_nil {whole fraction : List Char} (hsplit : d.PointSplit whole fraction)
    (h : d.exponent < 0) : whole ≠ [] ∧ fraction ≠ [] := by
  have hwhole := hsplit.length_whole
  have hfraction := hsplit.length_fraction
  rw [← List.length_pos_iff, ← List.length_pos_iff]
  omega

/-- With decimal places there is a point, and nothing else but digits. -/
theorem point_mem_plainChars (h : d.exponent < 0) :
    '.' ∈ d.plainChars ∧ ∀ c ∈ d.plainChars, c.isDigit = true ∨ c = '.' := by
  obtain ⟨whole, fraction, hplain, hsplit⟩ := plainChars_of_neg h
  rw [hplain]
  refine ⟨by simp, ?_⟩
  intro c hc
  rcases List.mem_append.1 hc with hwhole | hrest
  · exact .inl (hsplit.digits c (List.mem_append_left _ hwhole))
  · rcases List.mem_cons.1 hrest with rfl | hfraction
    · exact .inr rfl
    · exact .inl (hsplit.digits c (List.mem_append_right _ hfraction))

end Decimal
end ReceiptTemplate
