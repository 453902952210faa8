import ReceiptTemplate.Expr.Evaluate
import ReceiptTemplate.Filter.Standard
import ReceiptTemplate.Proofs.Decimal.CorrectRounding

/-!
# Arithmetic values — what an operator gives on two operands

On two numbers an operator gives the exact rational result, rounded half-even to twenty-eight digits in
the standard range of exponents.  Null stands for a result beyond that range, for a division by zero and for an
operand that is no number; nothing else is null, and nothing fails.
-/

namespace ReceiptTemplate

open Decimal (Limits)

/-- The exact result of an operator. -/
def Arithmetic.exact : Arithmetic → ℚ → ℚ → ℚ
  | .add, x, y => x + y
  | .subtract, x, y => x - y
  | .multiply, x, y => x * y
  | .divide, x, y => x / y

namespace Arithmetic

variable {op : Arithmetic} {a b v : Value} {x y : Decimal}

/-- An operator rounds its exact result once. -/
theorem map_toRat_calculate? (h : op = .divide → y.isZero = false) :
    (op.calculate? x y).map Decimal.toRat = Limits.standard.round? (op.exact x.toRat y.toRat) := by
  cases op with
  | add => exact Decimal.map_toRat_add? Limits.proper_standard x y
  | subtract => exact Decimal.map_toRat_sub? Limits.proper_standard x y
  | multiply => exact Decimal.map_toRat_mul? Limits.proper_standard x y
  | divide => exact Decimal.map_toRat_div? Limits.proper_standard x (h rfl)

theorem apply_of_not_number (h : (∀ x, a ≠ .number x) ∨ ∀ y, b ≠ .number y) : op.apply a b = .null := by
  unfold apply
  split
  · next x y =>
    rcases h with h | h
    · exact absurd rfl (h x)
    · exact absurd rfl (h y)
  · rfl

theorem apply_divide_zero (h : y.isZero = true) : Arithmetic.divide.apply (.number x) (.number y) = .null := by
  have hnone : Arithmetic.divide.calculate? x y = none := if_pos h
  rw [apply, hnone]

/-- A result is a number with the rounded value, or null where that value is beyond the range. -/
theorem apply_number (h : op = .divide → y.isZero = false) :
    (|Limits.standard.round (op.exact x.toRat y.toRat)| < 10 ^ (Limits.standard.emax + 1) ∧
        ∃ d, op.apply (.number x) (.number y) = .number d ∧
          d.toRat = Limits.standard.round (op.exact x.toRat y.toRat)) ∨
      (10 ^ (Limits.standard.emax + 1) ≤ |Limits.standard.round (op.exact x.toRat y.toRat)| ∧
        op.apply (.number x) (.number y) = .null) := by
  have hround := map_toRat_calculate? (x := x) h
  unfold Limits.round? at hround
  split at hround
  · next hlt =>
    obtain ⟨d, hd, hvalue⟩ := Option.map_eq_some_iff.1 hround
    exact .inl ⟨hlt, d, by rw [apply, hd], hvalue⟩
  · next hge =>
    have hnone := Option.map_eq_none_iff.1 hround
    exact .inr ⟨not_lt.1 hge, by rw [apply, hnone]⟩

end Arithmetic

namespace Expr

/-- Arithmetic is correctly rounded: to twenty-eight digits, half-even, with fewer digits below the normal
exponents.  A result that has no more digits is exact, and only one that is rounded beyond the largest
exponent is null. -/
theorem eval_arithmetic (env : Surroundings) (op : Arithmetic) {l r : Expr} {a b : Value}
    (hl : l.eval env = .ok a) (hr : r.eval env = .ok b) :
    ∃ v, (Expr.arithmetic op l r).eval env = .ok v ∧
      ((∀ x, a ≠ .number x) ∨ (∀ y, b ≠ .number y) → v = .null) ∧
      ∀ x y, a = .number x → b = .number y →
        (op = .divide → y.toRat = 0 → v = .null) ∧
        ((op = .divide → y.toRat ≠ 0) →
          (v = .null ↔
            10 ^ (Decimal.Limits.standard.emax + 1) ≤ |Decimal.Limits.standard.round (op.exact x.toRat y.toRat)|) ∧
          (v ≠ .null → ∃ d, v = .number d ∧
            d.toRat = Decimal.Limits.standard.round (op.exact x.toRat y.toRat)) ∧
          ∀ n e : ℤ, op.exact x.toRat y.toRat = n * 10 ^ e → |n| < 10 ^ Decimal.Limits.standard.precision →
            Decimal.Limits.standard.etiny ≤ e →
            |op.exact x.toRat y.toRat| < 10 ^ (Decimal.Limits.standard.emax + 1) →
            ∃ d, v = .number d ∧ d.toRat = op.exact x.toRat y.toRat) := by
  refine ⟨op.apply a b, ?_, Arithmetic.apply_of_not_number, ?_⟩
  · rw [eval, hl, hr]
    rfl
  rintro x y rfl rfl
  constructor
  · rintro rfl hzero
    exact Arithmetic.apply_divide_zero (Decimal.toRat_eq_zero_iff.1 hzero)
  · intro hdivisor
    have hne (hop : op = .divide) : y.isZero = false := by
      rw [Bool.eq_false_iff]
      exact fun hzero => hdivisor hop (Decimal.toRat_of_isZero hzero)
    rcases Arithmetic.apply_number (x := x) hne with ⟨hlt, d, hnumber, hvalue⟩ | ⟨hle, hnull⟩
    · rw [hnumber]
      refine ⟨iff_of_false (by simp) (not_le.2 hlt), fun _ => ⟨d, rfl, hvalue⟩, ?_⟩
      intro n e hexact hn he _
      refine ⟨d, rfl, ?_⟩
      rw [hvalue, hexact, Decimal.Limits.round_intCast_mul hn he]
    · rw [hnull]
      refine ⟨iff_of_true rfl hle, fun h => absurd rfl h, ?_⟩
      intro n e hexact hn he hlt
      rw [hexact, Decimal.Limits.round_intCast_mul hn he, ← hexact] at hle
      exact absurd hlt (not_lt.2 hle)

/-- Two thirds are rounded up in the twenty-eighth digit. -/
theorem eval_arithmetic_two_thirds :
    let env : Surroundings := ⟨.ofValue (.object []), .standard, .standard⟩
    let two : Decimal := ⟨false, 2, 0⟩
    let three : Decimal := ⟨false, 3, 0⟩
    ((Expr.number two).eval env = .ok (.number two) ∧ (Expr.number three).eval env = .ok (.number three)) ∧
      ∃ d, (Expr.arithmetic .divide (.number two) (.number three)).eval env = .ok (.number d) ∧
        d.toRat = 6666666666666666666666666667 / 10 ^ 28 := by
  intro env two three
  have hexact : Arithmetic.divide.exact two.toRat three.toRat = 2 / 3 := by
    norm_num [Arithmetic.exact, Decimal.toRat, two, three]
  have hplace : Decimal.Limits.standard.lastPlace (2 / 3) = -28 := by
    rw [Decimal.Limits.lastPlace_eq_iff (by norm_num)]
    norm_num [Decimal.Limits.standard, Decimal.Limits.etiny]
  have hround : Decimal.Limits.standard.round (2 / 3) = 6666666666666666666666666667 / 10 ^ 28 := by
    have hnearest : roundHalfEven (2 / 3 / 10 ^ (-28 : ℤ)) = 6666666666666666666666666667 := by
      apply roundHalfEven_eq_of_near <;> norm_num [abs_le, abs_eq]
    rw [Decimal.Limits.round, hplace, roundAt, hnearest]
    norm_num
  rcases eval_arithmetic env .divide (rfl : (Expr.number two).eval env = _)
    (rfl : (Expr.number three).eval env = _) with ⟨v, heval, -, hnumbers⟩
  rcases (hnumbers two three rfl rfl).2 (fun _ => by norm_num [Decimal.toRat, three]) with
    ⟨hnull, hvalue, -⟩
  rw [hexact, hround] at hnull hvalue
  have hsome : v ≠ .null := by
    rw [Ne, hnull, not_le]
    have hsmall : |(6666666666666666666666666667 / 10 ^ 28 : ℚ)| < 1 := by
      norm_num [abs_lt]
    exact hsmall.trans_le (one_le_zpow₀ (by norm_num) (by decide))
  obtain ⟨d, rfl, hd⟩ := hvalue hsome
  exact ⟨⟨rfl, rfl⟩, d, heval, hd⟩

end Expr
end ReceiptTemplate
