import ReceiptTemplate.Proofs.Filter.Acceptance
import ReceiptTemplate.Proofs.Number.ImproperText
import ReceiptTemplate.Proofs.Text.DigitKeys

/-!
# Fixed places — what `currency` and `number` write

Both filters round a number half away from zero and write all digits of what is left, whatever its
size: the working precision grows with the number.  Only a number that is rounded to ten to the
millionth or above is refused, and a zero with an exponent beyond all precisions.
-/

namespace ReceiptTemplate

/-- The digits before the point up to which a locale reads the amounts that it writes: what the check of the
groups leaves room for or, where numbers have no groups, what needs none. -/
def Locale.amountDigits (l : Locale) : Nat :=
  if l.decimalPattern.groups = (3, 3) then 25 else 3

namespace Filter

open Decimal (FitsAt Limits)
open NumberPattern (writtenChars)

variable {places : Nat} {d : Decimal} {l : Locale}

/-! ## Values -/

theorem toRat_settleZero (places : Nat) (r : Decimal) : (settleZero places r).toRat = r.toRat := by
  cases hr : r.isZero with
  | true => rw [settleZero_of_isZero places hr, Decimal.toRat_of_isZero rfl, Decimal.toRat_of_isZero hr]
  | false => rw [settleZero_of_ne places hr]

/-- Rounding half up is exact, whatever the size of the number. -/
theorem toRat_halfUp (places : Nat) (d : Decimal) :
    (halfUp places d).toRat = roundHalfAway places d.toRat := by
  rw [halfUp, toRat_settleZero, Decimal.toRat_roundPlaces]

/-- Only a rounded number below zero has a sign. -/
theorem negative_halfUp_iff (places : Nat) (d : Decimal) :
    (halfUp places d).negative = true ↔ roundHalfAway places d.toRat < 0 := by
  rw [← toRat_halfUp, ← Decimal.isBelowZero_iff]
  cases hr : (d.roundPlaces .awayFromZero places).isZero with
  | true =>
    rw [halfUp, settleZero_of_isZero places hr]
    rfl
  | false =>
    have hne := Decimal.isZero_eq_false_iff.1 hr
    rw [halfUp, settleZero_of_ne places hr, Decimal.isBelowZero]
    simp [hne]

/-- Rounding moves the leading digit by one place at most. -/
theorem inRange_halfUp {k j : Nat} (h : |d.toRat| < 10 ^ k) (hk : k + j ≤ 999999) (places : Nat) :
    InRange j (halfUp places d) := by
  have hmax : Limits.standard.emax = 999999 := rfl
  rw [inRange_halfUp_iff, InRange]
  rw [Decimal.abs_toRat_lt_pow_iff] at h
  cases hd : d.isZero with
  | true => exact .inl (Decimal.isZero_roundPlaces .awayFromZero places hd)
  | false =>
    rw [hd] at h
    simp only [Bool.false_eq_true, false_or] at h
    rcases Decimal.roundPlaces_cases hd .awayFromZero places with ⟨-, hzero, -⟩ | ⟨-, -, hhi⟩
    · exact .inl hzero
    · exact .inr (by omega)

/-- Of the numbers within the exponents only zeros can take more digits than there are. -/
theorem rounds_of_inRange {k : Nat} (hrange : InRange k (halfUp places d)) (hplaces : places ≤ 999999)
    (hzero : d.isZero = true → HasPrecision places d) : Rounds k places d := by
  refine ⟨?_, hrange⟩
  have hmax : Limits.standard.emax = 999999 := rfl
  have hmost : Limits.maxPrecision = 999999999999999999 := rfl
  cases hd : d.isZero with
  | true => exact hzero hd
  | false =>
    rw [inRange_halfUp_iff] at hrange
    rw [HasPrecision]
    -- The precision is asked for by the leading digit, which lies below the places or in the rounded number.
    rcases Decimal.roundPlaces_cases hd .awayFromZero places with ⟨hlow, -, -⟩ | ⟨hne, hhi, -⟩
    · omega
    · have hleading := hrange.adjusted_le hne
      omega

theorem rounds_of_lt {k j : Nat} (h : |d.toRat| < 10 ^ k) (hk : k + j ≤ 999999)
    (hplaces : places ≤ 999999) (hzero : d.isZero = true → HasPrecision places d) :
    Rounds j places d :=
  rounds_of_inRange (inRange_halfUp h hk places) hplaces hzero

/-! ## Texts -/

theorem isPlain_fixedPattern (places : Nat) (isGrouped : Bool) :
    (fixedPattern places isGrouped false).IsPlain := by
  cases isGrouped with
  | true => exact ⟨rfl, rfl, rfl, rfl, rfl, rfl, ⟨Nat.succ_ne_zero 2, Nat.succ_ne_zero 2⟩⟩
  | false => exact ⟨rfl, rfl, rfl, rfl, rfl, rfl, ⟨Nat.succ_ne_zero 999, Nat.succ_ne_zero 999⟩⟩

/-- A number that can be rounded is written digit for digit. -/
theorem writeNumber_eq (isGrouped : Bool) (hplaces : places ≤ Text.maxIntegerDigits)
    (hrounds : Rounds 0 places d) :
    writeNumber (fixedPattern places isGrouped false) places l d =
      .ok (.text (String.ofList
        ((fixedPattern places isGrouped false).writtenChars l.symbols (halfUp places d)))) := by
  have hplain := isPlain_fixedPattern places isGrouped
  have hmax : 0 ≤ (workingLimits places 6 (halfUp places d)).emax := by
    rw [emax_workingLimits]
    decide
  have hexact : -(places : Int) ≤ (halfUp places d).abs.normalize.exponent :=
    Decimal.le_exponent_normalize (d := (halfUp places d).abs) (le_exponent_halfUp places d)
  have hbelow : (halfUp places d).isZero = true ∨
      (halfUp places d).adjusted ≤ (workingLimits places 6 (halfUp places d)).emax := by
    rw [emax_workingLimits]
    rcases hrounds.2 with hzero | hle
    · exact .inl hzero
    · exact .inr (by omega)
  have hfits : FitsAt (workingLimits places 6 (halfUp places d)) places
      (halfUp places d).abs.normalize := by
    cases hzero : (halfUp places d).isZero with
    | true =>
      refine .inl ?_
      rw [Decimal.isZero_normalize]
      exact hzero
    | false =>
      -- The precision was chosen for the digits of the rounded number.
      have hleading := Decimal.adjusted_abs_normalize hzero
      have hprecision := le_precision places 6 (halfUp places d)
      rw [hzero] at hbelow
      refine .inr ?_
      rw [hleading]
      simp only [Bool.false_eq_true, false_or] at hbelow
      exact ⟨hbelow, by omega⟩
  have hround : roundHalfUp places d = .ok (halfUp places d) :=
    roundHalfUp_eq_ok_iff.2 ⟨rfl, hrounds⟩
  have hquote := NumberPattern.quote_not_mem_writtenChars (d := halfUp places d) l.distinct_symbols
    hplain
  have hformat := NumberPattern.format_eq_ok hplain hexact hmax hbelow (fun _ => hplaces) hfits hquote
  unfold writeNumber
  rw [hround]
  dsimp only
  rw [hformat]

/-- Places below a hundred are written in two digits. -/
theorem length_digitsOf_places (h : places ≤ 99) : (Text.digitsOf places).length ≤ 2 := by
  have hcount : Decimal.digitCount places ≤ 2 := by
    rw [Decimal.digitCount_le_iff (by decide)]
    exact Nat.lt_succ_of_le h
  exact hcount

theorem integerArgument?_digitsOf (h : places ≤ maxPlaces) :
    integerArgument? (some (.text (String.ofList (Text.digitsOf places)))) = some (places : Int) := by
  have hdigits : ∀ c ∈ (String.ofList (Text.digitsOf places)).toList, c.isDigit = true := by
    intro c hc
    rw [String.toList_ofList] at hc
    exact Text.isDigit_of_mem_digitsOf hc
  have hlength : (Text.digitsOf places).length ≤ Text.maxIntegerDigits :=
    Nat.le_trans (length_digitsOf_places (Nat.le_trans h (by decide))) (by decide)
  unfold integerArgument?
  dsimp only
  rw [Text.strip_of_isDigit hdigits, Text.readInteger?_digitsOf hlength]

/-- `number` writes as many places as the digits of its argument ask for. -/
theorem number_digitsOf (h : places ≤ maxPlaces) (named : Entries (Option Value)) :
    number (.number d) ⟨some (.text (String.ofList (Text.digitsOf places))), named⟩ l =
      writeNumber (fixedPattern places false false) places l d := by
  have hclamp : clamp maxPlaces
      ((integerArgument? (some (.text (String.ofList (Text.digitsOf places))))).getD 0) = places := by
    rw [integerArgument?_digitsOf h, Option.getD_some, clamp, Int.toNat_natCast]
    exact Nat.min_eq_right h
  unfold number
  dsimp only
  rw [hclamp]

/-- The text of a number with the places that the argument asks for. -/
theorem number_eq (h : places ≤ maxPlaces) (named : Entries (Option Value)) (hrounds : Rounds 0 places d) :
    number (.number d) ⟨some (.text (String.ofList (Text.digitsOf places))), named⟩ l =
      .ok (.text (String.ofList
        ((fixedPattern places false false).writtenChars l.symbols (halfUp places d)))) := by
  rw [number_digitsOf h named, writeNumber_eq false (Nat.le_trans h (by decide)) hrounds]

theorem currency_eq (args : FilterArguments) (hrounds : Rounds 0 2 d) :
    currency (.number d) args l =
      .ok (.text (String.ofList
        ((fixedPattern 2 true false).writtenChars l.symbols (halfUp 2 d)))) :=
  writeNumber_eq true (by decide) hrounds

/-! ## Reading the texts -/

/-- Without groups a number of at most twenty-eight digits is read as it was written. -/
theorem readNumber_number (hplaces : places ≤ maxPlaces) {r : Decimal} (hr : -(places : Int) ≤ r.exponent)
    (hcount : r.isZero = true ∨ r.adjusted + places < 28) :
    l.readNumber (String.ofList ((fixedPattern places false false).writtenChars l.symbols r))
      = .ok (.finite (r.lowerTo (-places))) := by
  have hmost : maxPlaces = 20 := rfl
  have hlimit : Decimal.exponentLimit = 999999999999999999 := rfl
  have hadjusted : r.abs.normalize.adjusted < 28 := by
    rw [Decimal.adjusted_abs_normalize_lt_iff (by decide)]
    apply hcount.imp_right
    omega
  have hgroups : (fixedPattern places false false).groups.1 = 1000 := rfl
  have hleast : (fixedPattern places false false).fraction.least = places := rfl
  exact NumberPattern.readStrict_ungrouped l.decimalPattern l.distinct_symbols
    (isPlain_fixedPattern places false) hr (by omega) (by omega)

section Currency

variable {r : Decimal} (hr : -2 ≤ r.exponent) (hcount : r.isZero = true ∨ r.adjusted < 26)

include hr

/-- Two decimal places leave as much room for the digits before the point as more of them do. -/
theorem roomFor_iff_of_places {q : NumberPattern} (hq : 2 ≤ q.fraction.most) :
    q.RoomFor r ↔ r.adjusted + q.fraction.most < 28 := by
  have hprecision : Limits.standard.precision = 28 := rfl
  have hexponent : -((2 : Nat) : Int) ≤ r.normalize.exponent := Decimal.le_exponent_normalize hr
  simp only [NumberPattern.RoomFor, NumberPattern.naturalPlaces]
  omega

include hcount

/-- In a locale with groups a grouped number is read below ten to the twenty-fifth; above that the check
of the text breaks off. -/
theorem readNumber_currency_grouped (hl : l.decimalPattern = .grouped) :
    l.readNumber (String.ofList ((fixedPattern 2 true false).writtenChars l.symbols r)) =
      if r.isZero = true ∨ r.adjusted < 25 then .ok (.finite (r.lowerTo (-2)))
      else .error (.unwritable .imprecise) := by
  have hprecision : Limits.standard.precision = 28 := rfl
  have hleast : (fixedPattern 2 true false).fraction.least = 2 := rfl
  have hmost : NumberPattern.grouped.fraction.most = 3 := rfl
  have hgroups : (fixedPattern 2 true false).groups.1 = 3 := rfl
  have hdecimal := l.isDecimal_decimalPattern
  rw [hl] at hdecimal
  have hroom : (r.isZero = true ∨ r.adjusted < (fixedPattern 2 true false).groups.1 ∨
      NumberPattern.grouped.RoomFor r) ↔ (r.isZero = true ∨ r.adjusted < 25) := by
    rw [roomFor_iff_of_places hr (by decide)]
    apply or_congr_right
    omega
  have hfits : r.isZero = true ∨
      r.adjusted + (fixedPattern 2 true false).fraction.least + 1 ≤ Limits.standard.precision := by
    apply hcount.imp_right
    omega
  have hread := NumberPattern.readStrict_grouped l.distinct_symbols (isPlain_fixedPattern 2 true)
    hdecimal rfl hr (by decide) hfits
  rw [Locale.readNumber, hl, hread]
  simp only [hroom]
  rfl

/-- In a locale without groups a grouped number is read below a thousand only.  Below ten to the
twenty-second it is malformed, and above that the check of the text breaks off. -/
theorem readNumber_currency_ungrouped (hl : l.decimalPattern = .ungrouped) :
    l.readNumber (String.ofList ((fixedPattern 2 true false).writtenChars l.symbols r)) =
      if r.isZero = true ∨ r.adjusted < 3 then .ok (.finite (r.lowerTo (-2)))
      else if r.adjusted < 22 then .error .malformed
      else .error (.unwritable .imprecise) := by
  have hprecision : Limits.standard.precision = 28 := rfl
  have hleast : (fixedPattern 2 true false).fraction.least = 2 := rfl
  have hmost : NumberPattern.ungrouped.fraction.most = 6 := rfl
  have hdecimal := l.isDecimal_decimalPattern
  rw [hl] at hdecimal
  have hroom : NumberPattern.ungrouped.RoomFor r ↔ r.adjusted < 22 := by
    rw [roomFor_iff_of_places hr (by decide)]
    omega
  have hfits : r.isZero = true ∨
      r.adjusted + (fixedPattern 2 true false).fraction.least + 1 ≤ Limits.standard.precision := by
    apply hcount.imp_right
    omega
  have hread := NumberPattern.readStrict_separated l.distinct_symbols (isPlain_fixedPattern 2 true)
    hdecimal (by decide) hr (by decide) hfits
  rw [Locale.readNumber, hl, hread]
  simp only [hroom]
  rfl

/-- An amount is read below the magnitude up to which its locale reads its own amounts.  Above that it is
malformed as long as there is room for the places of the locale's pattern. -/
theorem readNumber_currency (l : Locale) :
    l.readNumber (String.ofList ((fixedPattern 2 true false).writtenChars l.symbols r)) =
      if r.isZero = true ∨ r.adjusted < l.amountDigits then .ok (.finite (r.lowerTo (-2)))
      else if r.adjusted < (28 - l.decimalPattern.fraction.most : Nat) then .error .malformed
      else .error (.unwritable .imprecise) := by
  rcases l.decimalPattern_cases with hl | hl
  · have hdigits : l.amountDigits = 25 := by rw [Locale.amountDigits, hl]; rfl
    have hmost : 28 - l.decimalPattern.fraction.most = 25 := by rw [hl]; rfl
    rw [readNumber_currency_grouped hr hcount hl, hdigits, hmost, Nat.cast_ofNat]
    by_cases hread : r.isZero = true ∨ r.adjusted < 25
    · rw [if_pos hread, if_pos hread]
    · have hlarge : ¬r.adjusted < 25 := fun hlt => hread (.inr hlt)
      rw [if_neg hread, if_neg hread, if_neg hlarge]
  · have hdigits : l.amountDigits = 3 := by rw [Locale.amountDigits, hl]; rfl
    have hmost : 28 - l.decimalPattern.fraction.most = 22 := by rw [hl]; rfl
    rw [readNumber_currency_ungrouped hr hcount hl, hdigits, hmost]
    rfl

end Currency

end Filter
end ReceiptTemplate
