import ReceiptTemplate.Expr.Evaluate
import ReceiptTemplate.Proofs.Decimal.Order
import ReceiptTemplate.Proofs.Decimal.PlainText
import ReceiptTemplate.Proofs.Expr.ReadBack

/-!
# Number texts — plain notation is an expression for the number

A number in plain notation consists of a minus sign or none, digits, and a point where there are decimal
places.  This file defines

* `Decimal.PlainNotation` — such a text without its sign, and how many places it has;
* `Decimal.spelled` — the number that the digits denote: without a sign and with no power of ten left;
* `Expr.ofNumber` — the tree of the whole text, where a sign is a unary operator.

As an expression the text has the value of the number.  It is the number itself, digit for digit, where
the number has neither a sign nor an exponent above zero.
-/

namespace ReceiptTemplate

namespace Decimal

variable {d : Decimal}

/-! ## The text -/

/-- Digits, and as many places after a point as are asked for. -/
inductive PlainNotation : Nat → List Char → Prop
  | whole {digits : List Char} (hne : digits ≠ []) (h : ∀ c ∈ digits, c.isDigit = true) :
      PlainNotation 0 digits
  | point {digits fraction : List Char} (hne : digits ≠ [] ∧ fraction ≠ [])
      (h : ∀ c ∈ digits ++ fraction, c.isDigit = true) :
      PlainNotation fraction.length (digits ++ '.' :: fraction)

theorem plainNotation_plainChars (d : Decimal) : PlainNotation (-d.exponent).toNat d.plainChars := by
  by_cases h : 0 ≤ d.exponent
  · have hplaces : (-d.exponent).toNat = 0 := by omega
    rw [hplaces, plainChars_of_nonneg h]
    exact .whole (Text.digitsOf_ne_nil _) fun c hc => Text.isDigit_of_mem_digitsOf hc
  · have hneg : d.exponent < 0 := Int.not_le.1 h
    obtain ⟨whole, fraction, hplain, hsplit⟩ := plainChars_of_neg hneg
    have hplaces : (-d.exponent).toNat = fraction.length := by
      rw [← hsplit.length_fraction, Int.toNat_natCast]
    rw [hplain, hplaces]
    exact .point (hsplit.ne_nil hneg) hsplit.digits

/-! ## The number that the digits denote -/

/-- The magnitude, written out where the exponent lies above zero. -/
def spelled (d : Decimal) : Decimal :=
  d.abs.lowerTo (min d.exponent 0)

theorem spelled_of_nonpos (h : d.exponent ≤ 0) : d.spelled = d.abs := by
  rw [spelled, min_eq_left h, lowerTo, coefficientAt]
  simp [abs]

theorem plainChars_spelled (d : Decimal) : d.spelled.plainChars = d.plainChars := by
  by_cases h : 0 ≤ d.exponent
  · have hexponent : d.spelled.exponent = 0 := min_eq_right h
    have hcoefficient : d.spelled.coefficientAt 0 = d.coefficientAt 0 := by
      simp [spelled, lowerTo, coefficientAt, min_eq_right h, abs]
    rw [plainChars_of_nonneg h, plainChars_of_nonneg (le_of_eq hexponent.symm), hcoefficient]
  · rw [spelled_of_nonpos (by omega)]
    rfl

/-- The sign apart, nothing of the value is lost. -/
theorem toRat_spelled (d : Decimal) : d.spelled.toRat = |d.toRat| := by
  have hle : min d.exponent 0 ≤ d.abs.exponent := min_le_left _ _
  rw [spelled, toRat_lowerTo hle, toRat_abs, abs_toRat]

end Decimal

namespace Expr

open Decimal (PlainNotation)

variable {d : Decimal} {limits : Limits}

/-! ## The tree of the text -/

/-- What is read of a number in plain notation. -/
def ofNumber (d : Decimal) : Expr :=
  if d.isBelowZero then .negate (.number d.spelled) else .number d.spelled

/-- The digits are read as a literal, wherever operators bind no tighter than a sign. -/
theorem operand_plainChars {limit depth : Nat} {p : Precedence} (d : Decimal) :
    (Lexeme.next d.plainChars >>= operand limit (depth + 1) p)
      = .ok (.number d.spelled, ⟨.finish, [], []⟩) := by
  have hprintable : (Expr.number d.spelled).Printable := ⟨rfl, min_le_right _ _⟩
  have hchars : (Expr.number d.spelled).chars = d.plainChars := Decimal.plainChars_spelled d
  have hspells := Token.spells_number hprintable.1 hprintable.2 [] (by simp [Token.EndsWord])
  have hfinish : Lexeme.next [] = .ok ⟨.finish, [], []⟩ := rfl
  rw [List.append_nil, Decimal.plainChars_spelled] at hspells
  -- The digits are one token and end the source, so that no operator follows them.
  rw [hspells, ok_bind, operand_succ, prefixed_of_leaf rfl, advance_mk, hfinish, ok_bind, ok_bind,
    chain_of_none rfl]

theorem parseChars_plain {depth : Nat} (hdepth : 2 ≤ depth) (d : Decimal) :
    parseChars depth d.plain.toList = .ok (ofNumber d) := by
  obtain ⟨budget, rfl⟩ : ∃ budget, depth = budget + 2 := ⟨depth - 2, by omega⟩
  unfold parseChars Decimal.plain ofNumber
  rw [String.toList_ofList, ← bind_assoc]
  cases d.isBelowZero with
  | false =>
    rw [if_neg Bool.false_ne_true, if_neg Bool.false_ne_true, operand_plainChars]
    rfl
  | true =>
    have hminus : Lexeme.next ('-' :: d.plainChars)
        = .ok ⟨.symbol .minus, '-' :: d.plainChars, d.plainChars⟩ := rfl
    rw [if_pos rfl, if_pos rfl, hminus, ok_bind, operand_succ, prefixed_of_minus rfl, advance_mk,
      operand_plainChars]
    rfl

theorem parse_plain (hlength : d.plain.length ≤ limits.length) (hdepth : 2 ≤ limits.depth) :
    parse limits d.plain = .ok (ofNumber d) :=
  parse_of_parseChars hlength (parseChars_plain hdepth d)

theorem eval_ofNumber (env : Surroundings) (d : Decimal) :
    ∃ r, (ofNumber d).eval env = .ok (.number r) ∧ r.toRat = d.toRat ∧
      (d.negative = false → d.exponent ≤ 0 → r = d) := by
  unfold ofNumber
  cases hbelow : d.isBelowZero with
  | false =>
    have hnonneg : 0 ≤ d.toRat := by
      rw [← not_lt, ← Decimal.isBelowZero_iff, hbelow]
      exact Bool.false_ne_true
    refine ⟨d.spelled, rfl, ?_, ?_⟩
    · rw [Decimal.toRat_spelled, abs_of_nonneg hnonneg]
    · intro hsign hexponent
      rw [Decimal.spelled_of_nonpos hexponent, Decimal.abs, ← hsign]
  | true =>
    have hneg : d.toRat < 0 := (Decimal.isBelowZero_iff d).1 hbelow
    refine ⟨d.spelled.negate, rfl, ?_, ?_⟩
    · rw [Decimal.toRat_negate, Decimal.toRat_spelled, abs_of_neg hneg, neg_neg]
    · intro hsign
      rw [Decimal.isBelowZero, hsign] at hbelow
      cases hbelow

/-- Plain notation has no power of ten, as many places as the exponent says and a sign below zero only.
Read as an expression it has the value of the number, and is the number itself where that has no sign
and no exponent above zero. -/
theorem plain_reads_back (d : Decimal) :
    (∃ cs, PlainNotation (-d.exponent).toNat cs ∧
      d.plain.toList = if d.toRat < 0 then '-' :: cs else cs) ∧
    ∀ limits : Limits, d.plain.length ≤ limits.length → 2 ≤ limits.depth →
      ∃ e, parse limits d.plain = .ok e ∧ ∀ env : Surroundings, ∃ r,
        e.eval env = .ok (.number r) ∧ r.toRat = d.toRat ∧
          (d.negative = false → d.exponent ≤ 0 → r = d) := by
  constructor
  · refine ⟨d.plainChars, Decimal.plainNotation_plainChars d, ?_⟩
    simp only [← Decimal.isBelowZero_iff]
    rw [Decimal.plain, String.toList_ofList]
  · intro limits hlength hdepth
    exact ⟨ofNumber d, parse_plain hlength hdepth, fun env => eval_ofNumber env d⟩

end Expr
end ReceiptTemplate
