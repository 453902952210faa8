import ReceiptTemplate.Filter.Number
import ReceiptTemplate.Proofs.Number.Writable

/-!
# Number filters — which numbers they write

A number is rounded first, and that takes no more digits than the working precision has, if there is such
a precision: a zero can have an exponent beyond the largest one.  What remains to fail is the range of
exponents, for a number that is rounded or scaled to ten to the millionth or above, and a pattern that
demands more digits than the precision, which only patterns with an exponent or with significant digits
do.
-/

namespace ReceiptTemplate
namespace Filter

open Decimal (Limits)

variable {places : Nat} {d r : Decimal} {l : Locale} {p : NumberPattern}

/-! ## Rounding -/

/-- The number rounded half away from zero; a zero has all of its places and no sign. -/
def halfUp (places : Nat) (d : Decimal) : Decimal :=
  settleZero places (d.roundPlaces .awayFromZero places)

/-- Whether there is a precision in which a number is rounded to decimal places. -/
def HasPrecision (places : Nat) (d : Decimal) : Prop :=
  d.adjusted + places + 2 ≤ Limits.maxPrecision

instance : Decidable (HasPrecision places d) :=
  inferInstanceAs (Decidable (_ ≤ _))

/-- Whether a number that is scaled by `10^k` stays below ten to the millionth. -/
def InRange (k : Nat) (r : Decimal) : Prop :=
  r.isZero = true ∨ r.adjusted + k ≤ Limits.standard.emax

/-- Whether a number is rounded to decimal places and can be scaled by `10^k` then. -/
def Rounds (k places : Nat) (d : Decimal) : Prop :=
  HasPrecision places d ∧ InRange k (halfUp places d)

theorem InRange.adjusted_le {k : Nat} (h : InRange k r) (hr : r.isZero = false) :
    r.adjusted + k ≤ Limits.standard.emax := by
  rw [InRange, hr] at h
  simpa using h

theorem settleZero_of_ne (places : Nat) (hr : r.isZero = false) : settleZero places r = r := by
  rw [settleZero, hr]
  rfl

theorem settleZero_of_isZero (places : Nat) (hr : r.isZero = true) :
    settleZero places r = ⟨false, 0, -places⟩ := by
  rw [settleZero, hr]
  rfl

theorem isZero_settleZero (places : Nat) (r : Decimal) : (settleZero places r).isZero = r.isZero := by
  cases hr : r.isZero with
  | true => exact congrArg Decimal.isZero (settleZero_of_isZero places hr)
  | false => rw [settleZero_of_ne places hr, hr]

theorem isZero_halfUp (places : Nat) (d : Decimal) :
    (halfUp places d).isZero = (d.roundPlaces .awayFromZero places).isZero :=
  isZero_settleZero places _

theorem le_exponent_halfUp (places : Nat) (d : Decimal) :
    -(places : Int) ≤ (halfUp places d).exponent := by
  cases hr : (d.roundPlaces .awayFromZero places).isZero with
  | true => exact Int.le_of_eq (congrArg Decimal.exponent (settleZero_of_isZero places hr)).symm
  | false =>
    rw [halfUp, settleZero_of_ne places hr]
    exact Decimal.le_exponent_roundPlaces _ _ _

/-- In terms of the leading digit it does not matter how a zero is written. -/
theorem inRange_halfUp_iff (k places : Nat) (d : Decimal) :
    InRange k (halfUp places d) ↔ InRange k (d.roundPlaces .awayFromZero places) := by
  rw [InRange, InRange, isZero_halfUp]
  cases hr : (d.roundPlaces .awayFromZero places).isZero with
  | true => simp
  | false => rw [halfUp, settleZero_of_ne places hr]

theorem le_precision (places margin : Nat) (d : Decimal) :
    d.adjusted + places + margin ≤ (workingLimits places margin d).precision := by
  simp only [workingLimits, workingPrecision, Limits.withPrecision]
  omega

theorem precision_pos (margin : Nat) (d : Decimal) :
    0 < (workingLimits places margin d).precision := by
  simp only [workingLimits, workingPrecision, Limits.withPrecision]
  omega

theorem emax_workingLimits (margin : Nat) (d : Decimal) :
    (workingLimits places margin d).emax = Limits.standard.emax :=
  rfl

theorem workingPrecision_le_iff :
    workingPrecision places 2 d ≤ Limits.maxPrecision ↔ HasPrecision places d := by
  have hmax : Limits.maxPrecision = 999999999999999999 := rfl
  simp only [workingPrecision, HasPrecision]
  omega

/-- In its working precision a number is rounded, unless its magnitude is out of range. -/
theorem fitsAt_halfUp_iff :
    Decimal.FitsAt (workingLimits places 2 d) places (d.roundPlaces .awayFromZero places) ↔
      InRange 0 (halfUp places d) := by
  rw [inRange_halfUp_iff, InRange]
  cases hd : d.isZero with
  | true =>
    have hzero := Decimal.isZero_roundPlaces .awayFromZero places hd
    exact ⟨fun _ => .inl hzero, fun _ => Decimal.fitsAt_roundPlaces_of_isZero hd⟩
  | false =>
    -- The precision holds the digits before the point, the places and a carry.
    have hprecision := le_precision places 2 d
    rcases Decimal.roundPlaces_cases hd .awayFromZero places with ⟨-, hzero, -⟩ | ⟨hne, -, hhi⟩
    · exact ⟨fun _ => .inl hzero, fun _ => .inl hzero⟩
    · rw [Decimal.FitsAt, hne, emax_workingLimits]
      simp only [Bool.false_eq_true, false_or]
      omega

/-- Rounding fails for the precision that it takes and for the magnitude that is left. -/
theorem roundHalfUp_eq_ok_iff :
    roundHalfUp places d = .ok r ↔ r = halfUp places d ∧ Rounds 0 places d := by
  have hmax : 0 ≤ (workingLimits places 2 d).emax := by
    rw [emax_workingLimits]
    decide
  unfold roundHalfUp
  rw [Rounds, ← workingPrecision_le_iff, ← fitsAt_halfUp_iff]
  by_cases hprecision : Limits.maxPrecision < workingPrecision places 2 d
  · rw [if_pos hprecision]
    refine iff_of_false nofun ?_
    rintro ⟨-, hle, -⟩
    omega
  · rw [if_neg hprecision, and_iff_right (Nat.le_of_not_lt hprecision)]
    cases hround : Decimal.roundWithin? (workingLimits places 2 d) .awayFromZero places d with
    | none =>
      refine iff_of_false nofun ?_
      rintro ⟨-, hfits⟩
      rw [(Decimal.roundWithin?_eq_some_iff hmax).2 ⟨rfl, hfits⟩] at hround
      cases hround
    | some x =>
      rcases (Decimal.roundWithin?_eq_some_iff hmax).1 hround with ⟨rfl, hfits⟩
      rw [and_iff_left hfits]
      exact ⟨fun h => (Except.ok.inj h).symm, fun h => congrArg Except.ok h.symm⟩

theorem roundHalfUp_cases (places : Nat) (d : Decimal) :
    (Rounds 0 places d ∧ roundHalfUp places d = .ok (halfUp places d)) ∨
      (¬Rounds 0 places d ∧ ∃ fault, roundHalfUp places d = .error fault) := by
  cases hround : roundHalfUp places d with
  | ok r =>
    obtain ⟨rfl, hrounds⟩ := roundHalfUp_eq_ok_iff.1 hround
    exact .inl ⟨hrounds, rfl⟩
  | error fault =>
    refine .inr ⟨?_, fault, rfl⟩
    intro hrounds
    rw [roundHalfUp_eq_ok_iff.2 ⟨rfl, hrounds⟩] at hround
    cases hround

/-! ## Writing -/

/-- A number that no precision takes is not written. -/
theorem writeNumber_of_not_hasPrecision (h : ¬HasPrecision places d) :
    writeNumber p places l d = .error (.unreadableNumber .boundless) := by
  have hbeyond : Limits.maxPrecision < workingPrecision places 2 d :=
    Nat.lt_of_not_le (mt workingPrecision_le_iff.1 h)
  unfold writeNumber roundHalfUp
  rw [if_pos hbeyond]

/-- What a pattern demands of a number that is rounded before it is written. -/
def Writes (p : NumberPattern) (places : Nat) (r : Decimal) : Prop :=
  r.isZero = true ∨
    (r.adjusted + p.scale ≤ Limits.standard.emax ∧
      p.Admits (workingLimits places 6 r) (p.magnitude r))

/-- A number is written exactly when it is rounded and the pattern's demands on it are met. -/
theorem writeNumber_isOk (hp : p.IsSmall Limits.standard)
    (hplaces : p.fraction.most + p.scale ≤ places + 4) :
    (∃ v, writeNumber p places l d = .ok v) ↔
      HasPrecision places d ∧ Writes p places (halfUp places d) := by
  have hmax : 0 ≤ (workingLimits places 6 (halfUp places d)).emax := by
    rw [emax_workingLimits]
    decide
  have hformat := NumberPattern.format_isOk (p := p) (s := l.symbols) (d := halfUp places d) hmax
  -- The working limits differ from the standard ones in the precision only.
  have hsmall : p.IsSmall (workingLimits places 6 (halfUp places d)) :=
    ⟨hp.least, hp.most, hp.fraction⟩
  have hwrites : (∃ v, writeNumber p places l d = .ok v) ↔ Rounds 0 places d ∧
      ∃ text, p.format (workingLimits places 6 (halfUp places d)) l.symbols (halfUp places d)
        = .ok text := by
    unfold writeNumber
    rcases roundHalfUp_cases places d with ⟨hrounds, hround⟩ | ⟨hnot, fault, hround⟩
    · rw [hround, and_iff_right hrounds]
      dsimp only
      split <;> simp_all
    · rw [hround]
      simp [hnot]
  rw [hwrites, hformat, Rounds, Writes, and_assoc]
  apply and_congr_right
  intro _
  cases hzero : (halfUp places d).isZero with
  | true =>
    have hwritten := NumberPattern.writesMagnitude_zero hsmall hzero
    simp only [true_or, true_and, iff_true]
    exact ⟨.inl hzero, hwritten⟩
  | false =>
    have hmagnitude := NumberPattern.writesMagnitude_iff hzero (le_exponent_halfUp places d)
      (le_precision places 6 _) (precision_pos 6 _) hsmall hplaces
    rw [hmagnitude, InRange, emax_workingLimits, hzero]
    simp only [Bool.false_eq_true, false_or]
    -- A scaled number in range was in range before it was scaled.
    constructor
    · rintro ⟨-, hscaled, hadmits⟩
      exact ⟨hscaled, hadmits⟩
    · rintro ⟨hscaled, hadmits⟩
      exact ⟨by omega, hscaled, hadmits⟩

/-! ## Fixed places -/

/-- The power of ten by which a pattern of fixed places scales. -/
theorem scale_fixedPattern (places : Nat) (isGrouped isPercent : Bool) :
    (fixedPattern places isGrouped isPercent).scale = if isPercent then 2 else 0 := by
  cases isPercent <;> rfl

/-- A pattern of fixed places demands no more than the range of exponents. -/
theorem writes_fixedPattern (isGrouped isPercent : Bool) {margin : Nat}
    (hmargin : margin = if isPercent then 2 else 0)
    (hr : -((places + margin : Nat) : Int) ≤ r.exponent) :
    Writes (fixedPattern places isGrouped isPercent) (places + margin) r ↔ InRange margin r := by
  have hscale := scale_fixedPattern places isGrouped isPercent
  rw [← hmargin] at hscale
  rw [Writes, InRange, hscale]
  cases hzero : r.isZero with
  | true => simp
  | false =>
    obtain ⟨-, -, hadjusted, hexponent⟩ :=
      NumberPattern.magnitude_spec (p := fixedPattern places isGrouped isPercent) hzero
    rw [hscale] at hadjusted hexponent
    -- Nothing of the magnitude stands below the places, so it is written as it is.
    have hexact : (NumberPattern.magnitude (fixedPattern places isGrouped isPercent) r).roundPlaces
        .toEven places = NumberPattern.magnitude (fixedPattern places isGrouped isPercent) r :=
      Decimal.roundPlaces_of_le (by omega)
    simp only [Bool.false_eq_true, false_or]
    show _ ∧ (Decimal.roundPlaces .toEven places _).adjusted ≤ Limits.standard.emax ↔ _
    rw [hexact, hadjusted]
    exact and_self_iff

theorem isSmall_fixedPattern (isGrouped isPercent : Bool) (h : places ≤ Text.maxIntegerDigits) :
    (fixedPattern places isGrouped isPercent).IsSmall Limits.standard := by
  have hmax : Limits.standard.emax = 999999 := rfl
  cases isGrouped <;> exact ⟨by simp [fixedPattern, hmax], by simp [fixedPattern, hmax], h⟩

/-- A number is written in fixed places exactly when it is rounded and stays in range once it is
scaled. -/
theorem writeNumber_scaled_isOk (isGrouped isPercent : Bool) (margin : Nat)
    (hmargin : margin = if isPercent then 2 else 0) (h : places ≤ Text.maxIntegerDigits) :
    (∃ v, writeNumber (fixedPattern places isGrouped isPercent) (places + margin) l d = .ok v) ↔
      Rounds margin (places + margin) d := by
  have hplaces : (fixedPattern places isGrouped isPercent).fraction.most
      + (fixedPattern places isGrouped isPercent).scale ≤ places + margin + 4 := by
    rw [scale_fixedPattern, ← hmargin]
    exact Nat.le_add_right _ _
  rw [writeNumber_isOk (isSmall_fixedPattern isGrouped isPercent h) hplaces, Rounds,
    writes_fixedPattern isGrouped isPercent hmargin (le_exponent_halfUp _ d)]

theorem writeNumber_fixed_isOk (isGrouped : Bool) (h : places ≤ Text.maxIntegerDigits) :
    (∃ v, writeNumber (fixedPattern places isGrouped false) places l d = .ok v) ↔ Rounds 0 places d :=
  writeNumber_scaled_isOk isGrouped false 0 rfl h

theorem writeNumber_percent_isOk (isGrouped : Bool) (h : places ≤ Text.maxIntegerDigits) :
    (∃ v, writeNumber (fixedPattern places isGrouped true) (places + 2) l d = .ok v) ↔
      Rounds 2 (places + 2) d :=
  writeNumber_scaled_isOk isGrouped true 2 rfl h

end Filter
end ReceiptTemplate
