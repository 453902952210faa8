import ReceiptTemplate.Number.Format
import ReceiptTemplate.Proofs.Decimal.Rounding

/-!
# Writable numbers — when a pattern writes a number within limits

A pattern writes a number exactly when the digits that it asks for fit the working precision and the
leading digit stays within the exponents.  What it asks for depends on its kind:

* fixed places ask for the digits of the number itself;
* significant digits ask for their own count, whatever the number is;
* an exponent asks for the leading digits of the pattern and its places after the point.
-/

namespace ReceiptTemplate

open Decimal (FitsAt Limits)

/-- The same digits with the leading one at a given place. -/
def Decimal.leadingAt (e : Int) (d : Decimal) : Decimal :=
  { d with exponent := d.exponent - (d.adjusted - e) }

theorem Decimal.adjusted_leadingAt (e : Int) (d : Decimal) : (d.leadingAt e).adjusted = e := by
  simp only [leadingAt, adjusted]
  omega

namespace NumberPattern

variable {p : NumberPattern} {l : Limits} {s : NumberSymbols} {d : Decimal}

/-! ## Number parts -/

/-- The magnitude that the number part shows: scaled and without trailing zeros. -/
def magnitude (p : NumberPattern) (d : Decimal) : Decimal :=
  ({ d with exponent := d.exponent + p.scale } : Decimal).abs.normalize

/-- The place of the leading digit before an exponent. -/
def lead (p : NumberPattern) : Nat :=
  max 1 p.whole.least - 1

/-- The places after the point before an exponent. -/
def mantissaPlaces (p : NumberPattern) (mantissa : Decimal) : DigitRange :=
  if p.fraction = ⟨0, 0⟩ then ⟨0, naturalPlaces mantissa⟩ else p.fraction

/-- A fraction without least digits is looked through up to a number of digits only. -/
def IsShort (places : DigitRange) : Prop :=
  places.least = 0 → places.most ≤ Text.maxIntegerDigits

theorem fixedChars_isOk (hmax : 0 ≤ l.emax) {places : DigitRange} :
    (∃ cs, p.fixedChars l s places d = .ok cs) ↔
      FitsAt l places.most (d.roundPlaces .toEven places.most) ∧ IsShort places := by
  unfold fixedChars IsShort
  rcases Decimal.roundWithin?_cases hmax .toEven places.most d with ⟨hfits, hround⟩ | ⟨hnot, hround⟩
  · rw [hround]
    dsimp only
    by_cases hlong : places.least = 0 ∧ Text.maxIntegerDigits < places.most
    · simp only [if_pos hlong, reduceCtorEq, exists_false, false_iff]
      rintro ⟨-, hshort⟩
      exact absurd (hshort hlong.1) (Nat.not_le.2 hlong.2)
    · simp only [if_neg hlong, Except.ok.injEq, exists_eq', true_iff]
      exact ⟨hfits, fun hleast => Nat.le_of_not_lt fun hmost => hlong ⟨hleast, hmost⟩⟩
  · rw [hround]
    simp [hnot]

theorem significantChars_isOk (hmax : 0 ≤ l.emax) :
    (∃ cs, p.significantChars l s d = .ok cs) ↔
      FitsAt l 0 ((d.leadingAt (p.whole.most - 1)).roundPlaces .toEven 0) := by
  have hshift :
      ({ d with exponent := d.exponent + ((p.whole.most : Int) - 1 - d.adjusted) } : Decimal)
        = d.leadingAt (p.whole.most - 1) := by
    simp only [Decimal.leadingAt, Decimal.mk.injEq, true_and]
    omega
  unfold significantChars significantDigits?
  dsimp only
  rw [hshift]
  rcases Decimal.roundWithin?_cases hmax .toEven 0 (d.leadingAt (p.whole.most - 1)) with
    ⟨hfits, hround⟩ | ⟨hnot, hround⟩
  · rw [hround]
    simp [hfits]
  · rw [hround]
    simp [hnot]

theorem map_isOk {α β : Type} {x : Except FormatFault α} {f : α → β} :
    (∃ b, x.map f = .ok b) ↔ ∃ a, x = .ok a := by
  cases x <;> simp [Except.map]

theorem scientificChars_isOk (hmax : 0 ≤ l.emax) {e : ExponentForm} :
    (∃ cs, p.scientificChars l s e d = .ok cs) ↔
      FitsAt l (p.mantissaPlaces (d.leadingAt p.lead)).most
          ((d.leadingAt p.lead).roundPlaces .toEven (p.mantissaPlaces (d.leadingAt p.lead)).most) ∧
        IsShort (p.mantissaPlaces (d.leadingAt p.lead)) := by
  have hlead : ((max 1 p.whole.least : Nat) : Int) - 1 = p.lead := by
    simp only [lead]
    omega
  unfold scientificChars
  dsimp only
  rw [map_isOk, hlead]
  exact fixedChars_isOk hmax

/-! ## Whole patterns -/

/-- Whether the number part of a pattern can be written for a magnitude. -/
def WritesMagnitude (p : NumberPattern) (l : Limits) (m : Decimal) : Prop :=
  match p.exponent with
  | some _ =>
    let mantissa := m.leadingAt p.lead
    let places := p.mantissaPlaces mantissa
    FitsAt l places.most (mantissa.roundPlaces .toEven places.most) ∧ IsShort places
  | none =>
    if p.isSignificant then FitsAt l 0 ((m.leadingAt (p.whole.most - 1)).roundPlaces .toEven 0)
    else FitsAt l p.fraction.most (m.roundPlaces .toEven p.fraction.most) ∧ IsShort p.fraction

theorem format_isOk (hmax : 0 ≤ l.emax) :
    (∃ text, p.format l s d = .ok text) ↔
      (d.isZero = true ∨ d.adjusted + p.scale ≤ l.emax) ∧ p.WritesMagnitude l (p.magnitude d) := by
  have hadjusted : ({ d with exponent := d.exponent + p.scale } : Decimal).adjusted
      = d.adjusted + p.scale := by
    simp only [Decimal.adjusted]
    omega
  unfold format
  dsimp only
  rw [hadjusted]
  split
  · -- Scaling alone takes the number out of the exponents.
    next hover =>
    simp only [Bool.and_eq_true, Bool.not_eq_true', decide_eq_true_eq] at hover
    have hnot : ¬(d.isZero = true ∨ d.adjusted + p.scale ≤ l.emax) := by
      rintro (hzero | hle)
      · rw [hover.1] at hzero
        cases hzero
      · omega
    simp [hnot]
  · next hover =>
    simp only [Bool.and_eq_true, Bool.not_eq_true', decide_eq_true_eq, not_and, Int.not_lt] at hover
    have hrange : d.isZero = true ∨ d.adjusted + p.scale ≤ l.emax := by
      cases hzero : d.isZero with
      | true => exact .inl rfl
      | false => exact .inr (hover hzero)
    rw [map_isOk, and_iff_right hrange, WritesMagnitude, magnitude]
    cases p.exponent with
    | some e => exact scientificChars_isOk hmax
    | none =>
      cases p.isSignificant with
      | true => exact significantChars_isOk hmax
      | false => exact fixedChars_isOk hmax

/-! ## Nonzero numbers -/

/-- What a pattern demands of the working precision and of the exponents for a nonzero magnitude
that has no more digits than the precision. -/
def Admits (p : NumberPattern) (l : Limits) (m : Decimal) : Prop :=
  match p.exponent with
  | some _ =>
    if p.fraction = ⟨0, 0⟩ then
      p.lead < l.precision ∧
        Decimal.digitCount m.coefficient ≤ p.lead + 1 + Text.maxIntegerDigits
    else
      ((m.leadingAt p.lead).roundPlaces .toEven p.fraction.most).adjusted + p.fraction.most
        < l.precision
  | none =>
    if p.isSignificant then
      ((m.leadingAt (p.whole.most - 1)).roundPlaces .toEven 0).adjusted < l.precision
    else (m.roundPlaces .toEven p.fraction.most).adjusted ≤ l.emax

/-- The placeholders of a pattern are fewer than the exponents reach and than a fraction may have.
-/
structure IsSmall (p : NumberPattern) (l : Limits) : Prop where
  least : p.whole.least < l.emax
  most : p.whole.most ≤ l.emax
  fraction : p.fraction.most ≤ Text.maxIntegerDigits

/-- The strongest scale is that of a per-mille sign. -/
theorem scale_le (p : NumberPattern) : p.scale ≤ 3 := by
  unfold scale
  dsimp only
  split
  · decide
  · split <;> decide

theorem isZero_magnitude (hd : d.isZero = true) : p.magnitude d = ⟨false, 0, 0⟩ := by
  rw [magnitude, Decimal.normalize_of_isZero]
  · rfl
  · exact hd

theorem magnitude_spec (hd : d.isZero = false) :
    (p.magnitude d).isZero = false ∧ (p.magnitude d).coefficient % 10 ≠ 0 ∧
      (p.magnitude d).adjusted = d.adjusted + p.scale ∧
      d.exponent + p.scale ≤ (p.magnitude d).exponent := by
  have hscaled : (({ d with exponent := d.exponent + p.scale } : Decimal).abs).isZero = false := hd
  rcases Decimal.normalize_spec hscaled with ⟨hdigit, hadjusted, hexp⟩
  refine ⟨?_, hdigit, ?_, hexp⟩
  · -- A number that does not end in a zero is none.
    rw [Decimal.isZero_eq_false_iff]
    intro hzero
    exact hdigit (by rw [← magnitude, hzero])
  · rw [magnitude, hadjusted]
    simp only [Decimal.abs, Decimal.adjusted]
    omega

theorem writesMagnitude_zero (hp : p.IsSmall l) (hd : d.isZero = true) :
    p.WritesMagnitude l (p.magnitude d) := by
  rw [isZero_magnitude hd, WritesMagnitude]
  have hshort : IsShort p.fraction := fun _ => hp.fraction
  split
  · refine ⟨Decimal.fitsAt_roundPlaces_of_isZero rfl, ?_⟩
    unfold mantissaPlaces
    split
    · exact fun _ => Nat.zero_le _
    · exact hshort
  · split
    · exact Decimal.fitsAt_roundPlaces_of_isZero rfl
    · exact ⟨Decimal.fitsAt_roundPlaces_of_isZero rfl, hshort⟩

section Nonzero

variable {places : Nat} (hd : d.isZero = false) (hexp : -(places : Int) ≤ d.exponent)
  (hprecision : d.adjusted + places + 6 ≤ l.precision) (hpos : 0 < l.precision)
  (hp : p.IsSmall l) (hplaces : p.fraction.most + p.scale ≤ places + 4)

include hd hexp hprecision hpos hp hplaces

theorem writesMagnitude_iff : p.WritesMagnitude l (p.magnitude d) ↔ p.Admits l (p.magnitude d) := by
  rcases magnitude_spec (p := p) hd with ⟨hne, hdigit, hadjusted, hexponent⟩
  generalize p.magnitude d = m at hne hdigit hadjusted hexponent ⊢
  have hleast := hp.least
  have hmost := hp.most
  have hfraction := hp.fraction
  have hmax : 0 ≤ l.emax := by omega
  have hshort : IsShort p.fraction := fun _ => hfraction
  have hdigits : (Decimal.digitCount m.coefficient : Int) = m.adjusted - m.exponent + 1 := by
    simp only [Decimal.adjusted]
    omega
  have hlead : (p.lead : Int) ≤ l.emax ∧ (p.lead : Int) + 1 ≤ l.emax := by
    simp only [lead]
    omega
  unfold WritesMagnitude Admits
  cases hform : p.exponent with
  | some e =>
    have hmantissa := Decimal.adjusted_leadingAt p.lead m
    have hmantissaNe : (m.leadingAt p.lead).isZero = false := hne
    dsimp only
    by_cases hnone : p.fraction = ⟨0, 0⟩
    · -- All digits are shown, and there are no more of them than the precision holds.
      have hnormal : (m.leadingAt p.lead).normalize = m.leadingAt p.lead :=
        Decimal.normalize_of_mod hdigit
      have hplace : (p.mantissaPlaces (m.leadingAt p.lead)).most
          = (-(m.leadingAt p.lead).exponent).toNat := by
        rw [mantissaPlaces, if_pos hnone, naturalPlaces, hnormal]
      have hexact : (m.leadingAt p.lead).roundPlaces .toEven
          (p.mantissaPlaces (m.leadingAt p.lead)).most = m.leadingAt p.lead := by
        apply Decimal.roundPlaces_of_le
        rw [hplace]
        omega
      have hmantissaExp : (m.leadingAt p.lead).exponent = m.exponent - (m.adjusted - p.lead) := rfl
      rw [if_pos hnone, FitsAt, hexact, hmantissaNe, hmantissa, hplace, hmantissaExp]
      have hsmall : IsShort (p.mantissaPlaces (m.leadingAt p.lead)) ↔
          (-(m.exponent - (m.adjusted - p.lead))).toNat ≤ Text.maxIntegerDigits := by
        have hleastZero : (p.mantissaPlaces (m.leadingAt p.lead)).least = 0 := by
          rw [mantissaPlaces, if_pos hnone]
        rw [IsShort, hplace, hmantissaExp, hleastZero]
        simp only [true_implies]
      rw [hsmall]
      simp only [Bool.false_eq_true, false_or]
      omega
    · -- Rounding moves the leading digit by one place at most, which the exponents have room for.
      have hsame : p.mantissaPlaces (m.leadingAt p.lead) = p.fraction := if_neg hnone
      rw [if_neg hnone, hsame, and_iff_left hshort,
        Decimal.fitsAt_roundPlaces_iff hmax hpos hmantissaNe]
      rcases Decimal.roundPlaces_cases hmantissaNe .toEven p.fraction.most with
        ⟨hsmall, -, -⟩ | ⟨-, -, hhi⟩
      · omega
      · omega
  | none =>
    dsimp only
    cases p.isSignificant with
    | true =>
      -- Significant digits are a whole number with the leading digit at the last of them.
      have hshifted := Decimal.adjusted_leadingAt (p.whole.most - 1 : Int) m
      have hshiftedNe : (m.leadingAt (p.whole.most - 1)).isZero = false := hne
      simp only [if_true]
      rw [Decimal.fitsAt_roundPlaces_iff hmax hpos hshiftedNe]
      rcases Decimal.roundPlaces_cases hshiftedNe .toEven 0 with ⟨-, -, hzero⟩ | ⟨-, -, hhi⟩
      · omega
      · omega
    | false =>
      -- The digits fit the precision, so that only the exponents can be left.
      simp only [Bool.false_eq_true, if_false]
      rw [and_iff_left hshort, Decimal.fitsAt_roundPlaces_iff hmax hpos hne]
      rcases Decimal.roundPlaces_cases hne .toEven p.fraction.most with ⟨-, -, hzero⟩ | ⟨-, -, hhi⟩
      · omega
      · omega

end Nonzero

/-! ## Patterns that were read -/

theorem length_readBefore (cs : List Char) : (readBefore cs).2.length ≤ cs.length := by
  fun_induction readBefore cs with
  | case1 => exact Nat.le_refl _
  -- A quoted part is cut out whole, and what follows it is read on.
  | case2 tail quoted rest hbreak more rest' hmore ih =>
    have hlt := Text.length_after_of_breakOn (List.cons_ne_nil _ _) hbreak
    rw [hmore] at ih
    simp only [List.length_cons] at *
    omega
  | case3 => exact Nat.le_refl _
  | case4 c tail hc hprefix more rest hmore ih =>
    rw [hmore] at ih
    exact Nat.le_succ_of_le ih
  | case5 => exact Nat.le_refl _

theorem readDigitRange_le (cs : List Char) :
    (readDigitRange cs).least ≤ (readDigitRange cs).most ∧ (readDigitRange cs).most ≤ cs.length :=
  ⟨List.length_filter_le ..,
    Nat.le_trans (List.length_filter_le ..) (List.takeWhile_sublist _).length_le⟩

theorem length_cutAtPoint (body : List Char) :
    (cutAtPoint body).1.length ≤ body.length ∧ (cutAtPoint body).2.length ≤ body.length := by
  unfold cutAtPoint
  split
  · -- Both parts are cut from the reversed text, which is as long.
    have hdrop := (List.dropWhile_sublist (· != '.') (l := body.reverse)).length_le
    have htake := (List.takeWhile_sublist (· != '.') (l := body.reverse)).length_le
    simp only [List.length_reverse, List.length_drop] at *
    omega
  · simp

/-- A pattern has no more placeholders than its text has characters. -/
theorem isSmall_of_read? {text : String} (h : read? text = some p)
    (hlong : (text.length : Int) < l.emax) (hshort : text.length ≤ Text.maxIntegerDigits) :
    p.IsSmall l := by
  have hlength : text.length = text.toList.length := (String.length_toList).symm
  unfold read? at h
  dsimp only at h
  have hparts := length_readBefore (text.toList.takeWhile (· != ';'))
  have htext := (List.takeWhile_sublist (· != ';') (l := text.toList)).length_le
  generalize hbody : ((readParts (text.toList.takeWhile (· != ';'))).2.takeWhile (· != 'E')) = body
    at h
  -- Every part that is cut from the text on the way is no longer than what it is cut from.
  have hbodyLength : body.length ≤ text.length := by
    rw [← hbody]
    have hnumber := (List.takeWhile_sublist (· != 'E')
      (l := (readParts (text.toList.takeWhile (· != ';'))).2)).length_le
    have hrest := (List.takeWhile_sublist isNumberChar
      (l := (readBefore (text.toList.takeWhile (· != ';'))).2)).length_le
    simp only [readParts] at hnumber ⊢
    omega
  have hcut := length_cutAtPoint body
  have hwhole := readDigitRange_le (cutAtPoint body).1
  have hfraction := readDigitRange_le (cutAtPoint body).2
  split at h
  · cases h
  · cases h
    exact ⟨by dsimp only; omega, by dsimp only; omega, by dsimp only; omega⟩

end NumberPattern
end ReceiptTemplate
