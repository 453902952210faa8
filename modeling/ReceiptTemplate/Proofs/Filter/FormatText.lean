import ReceiptTemplate.Proofs.Filter.ExactPlaces
import ReceiptTemplate.Proofs.Number.Affixes

/-!
# Format texts — the number that `format` shows

A format of a number is a pattern and the places to which the number is rounded, half away from zero,
before the pattern is applied.  These are the places of the fraction and of the scale, whatever the
kind of the pattern is.

Fixed places show no others, so that the number is rounded once.  An exponent or significant digits end at
another place: there the number is rounded a second time, half-even, and one that the first rounding has
brought to zero is shown as zero.
-/

namespace ReceiptTemplate
namespace Filter

open NumberPattern (denoted? magnitude)

variable {places : Nat} {d : Decimal} {l : Locale} {p : NumberPattern} {spec : String}
  {args : FilterArguments} {v : Value}

/-! ## Formats as patterns -/

/-- The pattern of a number format, and the places to which numbers are rounded before it is applied. -/
def NumberFormat.pattern? : NumberFormat → Option (NumberPattern × Nat)
  | .pattern text p => some (p, patternPlaces text p)
  | .fixed places isGrouped isPercent =>
    some (fixedPattern places isGrouped isPercent, if isPercent then places + 2 else places)
  | .unsupported | .invalid => none

/-- A format with a pattern is one that was read from the text, or a shorthand of at most two digits. -/
theorem pattern?_cases (hp : (NumberFormat.read spec).pattern? = some (p, places)) :
    (NumberFormat.read spec = .pattern spec p ∧ NumberPattern.read? spec = some p ∧
        places = patternPlaces spec p) ∨
      ∃ n isGrouped isPercent, NumberFormat.read spec = .fixed n isGrouped isPercent ∧ n < 100 ∧
        p = fixedPattern n isGrouped isPercent ∧ places = if isPercent then n + 2 else n := by
  rcases NumberFormat.read_cases spec with ⟨q, hformat, hread⟩ |
    ⟨n, isGrouped, isPercent, hformat, hn⟩ | hformat | hformat
  · rw [hformat] at hp
    cases hp
    exact .inl ⟨hformat, hread, rfl⟩
  · rw [hformat] at hp
    cases hp
    exact .inr ⟨n, isGrouped, isPercent, hformat, hn, rfl, rfl⟩
  · rw [hformat] at hp
    cases hp
  · rw [hformat] at hp
    cases hp

theorem formatNumber_of_pattern? (hp : (NumberFormat.read spec).pattern? = some (p, places)) :
    formatNumber spec l d = writeNumber p places l d := by
  unfold formatNumber
  rcases pattern?_cases hp with ⟨hformat, -, rfl⟩ | ⟨n, isGrouped, isPercent, hformat, -, rfl, rfl⟩
  · rw [hformat]
  · rw [hformat]

theorem format_of_formatSpec? (hspec : formatSpec? args = some spec) :
    format (.number d) args l = formatNumber spec l d := by
  simp only [format, hspec]

theorem closed_of_pattern? (hp : (NumberFormat.read spec).pattern? = some (p, places)) :
    p.ClosedAffixes := by
  rcases pattern?_cases hp with ⟨-, hread, -⟩ | ⟨n, isGrouped, isPercent, -, -, rfl, -⟩
  · exact NumberPattern.closedAffixes_of_read? hread
  · exact ⟨NumberPattern.closed_nil, NumberPattern.closed_nil.cons (by decide)⟩

/-- On one line numbers are rounded to the places of the fraction and of the scale. -/
theorem places_of_pattern? (hline : '\n' ∉ spec.toList)
    (hp : (NumberFormat.read spec).pattern? = some (p, places)) :
    places = p.fraction.most + p.scale := by
  rcases pattern?_cases hp with ⟨-, hread, rfl⟩ | ⟨n, isGrouped, isPercent, -, -, rfl, rfl⟩
  · rw [NumberPattern.scale_eq hline hread]
    rfl
  · rw [scale_fixedPattern]
    cases isPercent <;> rfl

/-- A format of at most a hundred characters asks for few places. -/
theorem places_le_of_pattern? (hspec : spec.length ≤ maxFormatLength)
    (hp : (NumberFormat.read spec).pattern? = some (p, places)) : places ≤ 999999 := by
  have hlength : spec.length ≤ 100 := hspec
  have hdigits : Text.maxIntegerDigits = 4300 := rfl
  have hmax : Decimal.Limits.standard.emax = 999999 := rfl
  rcases pattern?_cases hp with ⟨-, hread, rfl⟩ | ⟨n, isGrouped, isPercent, -, hn, rfl, rfl⟩
  · have hsmall : p.IsSmall Decimal.Limits.standard :=
      NumberPattern.isSmall_of_read? hread (by omega) (by omega)
    have hfraction := hsmall.fraction
    unfold patternPlaces
    dsimp only
    split
    · omega
    · split <;> omega
  · split <;> omega

/-! ## Two roundings -/

/-- A number is rounded to the places of the format, and what is left is shown by the pattern. -/
theorem text_of_writeNumber (hp : p.ClosedAffixes) (h : writeNumber p places l d = .ok v) :
    ∃ number, v = .text ((if roundHalfAway places d.toRat < 0 then p.negative else p.positive).around
        (if p.hasNumber then number else [])) ∧
      denoted? l.symbols number = some (p.shown (|roundHalfAway places d.toRat| * 10 ^ p.scale)) := by
  unfold writeNumber at h
  cases hround : roundHalfUp places d with
  | error fault =>
    rw [hround] at h
    cases h
  | ok r =>
    obtain rfl := (roundHalfUp_eq_ok_iff.1 hround).1
    rw [hround] at h
    dsimp only at h
    split at h
    · next text hformat =>
      obtain ⟨number, htext, hdenoted⟩ :=
        NumberPattern.text_of_format l.distinct_symbols l.marked_symbols hp hformat
      rw [toRat_halfUp] at hdenoted
      refine ⟨number, ?_, hdenoted⟩
      rw [← Except.ok.inj h, htext]
      simp only [negative_halfUp_iff]
    · cases h

/-! ## One rounding -/

/-- Fixed places that are all rounded to before are shown as they are. -/
theorem shown_roundHalfAway (hexponent : p.exponent = none) (hsignificant : p.isSignificant = false)
    (x : ℚ) :
    p.shown (|roundHalfAway (p.fraction.most + p.scale) x| * 10 ^ p.scale)
      = |roundHalfAway p.fraction.most (x * 10 ^ p.scale)| := by
  have hpos : (0 : ℚ) < 10 ^ p.scale := by positivity
  have hscaled : |roundHalfAway (p.fraction.most + p.scale) x| * 10 ^ p.scale
      = |roundHalfAway p.fraction.most (x * 10 ^ p.scale)| := by
    rw [roundHalfAway_mul_pow, abs_mul, abs_of_pos hpos]
  obtain ⟨n, hn⟩ := exists_roundHalfAway_eq p.fraction.most (x * 10 ^ p.scale)
  rw [hscaled, NumberPattern.shown_of_fixed hexponent hsignificant, ← abs_roundAt, hn,
    roundAt_intCast_mul (le_refl _)]

/-- A pattern of fixed places accepts every number that is not near the end of the exponents. -/
theorem accepts_of_fixed (hexponent : p.exponent = none) (hsignificant : p.isSignificant = false)
    (hspec : spec.length ≤ maxFormatLength)
    (hp : (NumberFormat.read spec).pattern? = some (p, places)) (hd : |d.toRat| < 10 ^ 999990)
    (hzero : d.isZero = true → HasPrecision places d) :
    (NumberFormat.read spec).Accepts d := by
  have hmax : Decimal.Limits.standard.emax = 999999 := rfl
  have hplaces := places_le_of_pattern? hspec hp
  -- Nine places stay for the scale and for carries.
  have hrounds := rounds_of_lt hd (show 999990 + 9 ≤ 999999 by decide) hplaces hzero
  rcases pattern?_cases hp with ⟨hformat, -, rfl⟩ | ⟨n, isGrouped, isPercent, hformat, -, rfl, rfl⟩
  · have hscale := p.scale_le
    rw [hformat]
    refine ⟨hrounds.1, ?_⟩
    cases hrounded : (halfUp (patternPlaces spec p) d).isZero with
    | true => exact .inl hrounded
    | false =>
      have hrange := hrounds.2.adjusted_le hrounded
      rcases NumberPattern.magnitude_spec (p := p) hrounded with ⟨hne, -, hadjusted, -⟩
      refine .inr ⟨by omega, ?_⟩
      show NumberPattern.Admits _ _ _
      unfold NumberPattern.Admits
      rw [hexponent, hsignificant]
      dsimp only
      rw [if_neg Bool.false_ne_true, emax_workingLimits]
      rcases Decimal.roundPlaces_cases hne .toEven p.fraction.most with ⟨-, -, hlow⟩ | ⟨-, -, hhi⟩
      · omega
      · omega
  · rw [hformat]
    cases isPercent with
    | true => exact ⟨hrounds.1, inRange_halfUp hd (by decide) _⟩
    | false => exact ⟨hrounds.1, inRange_halfUp hd (by decide) _⟩

/-! ## All formats -/

/-- A digit before the point, one after it and an exponent. -/
def exponentPattern : NumberPattern where
  positive := ⟨[], []⟩
  negative := ⟨['-'], []⟩
  hasNumber := true
  isSignificant := false
  whole := ⟨1, 1⟩
  fraction := ⟨1, 1⟩
  exponent := some ⟨⟨1, 1⟩, false⟩
  groups := (1000, 1000)

theorem read_exponentPattern : NumberFormat.read "0.0E0" = .pattern "0.0E0" exponentPattern := by
  have hbare : isNumberPattern "0.0E0".toList = true := by
    have hdrop : dropQuoted "0.0E0".toList = "0.0E0".toList := by
      simp [dropQuoted]
    rw [isNumberPattern, hdrop]
    rfl
  have hparts : NumberPattern.readParts ("0.0E0".toList.takeWhile (· != ';'))
      = (⟨[], []⟩, "0.0E0".toList) := by
    have hbefore : NumberPattern.readBefore ['0', '.', '0', 'E', '0'] = ([], "0.0E0".toList) := by
      rw [NumberPattern.readBefore]
      rfl
    show NumberPattern.readParts ['0', '.', '0', 'E', '0'] = _
    rw [NumberPattern.readParts, hbefore]
    rfl
  have hread : NumberPattern.read? "0.0E0" = some exponentPattern := by
    unfold NumberPattern.read?
    dsimp only
    rw [hparts]
    rfl
  have hpattern : NumberFormat.read "0.0E0" = NumberFormat.ofPattern "0.0E0" := rfl
  rw [hpattern, NumberFormat.ofPattern, if_pos hbare, hread]

end Filter
end ReceiptTemplate
