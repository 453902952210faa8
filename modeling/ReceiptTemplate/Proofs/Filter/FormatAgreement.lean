import ReceiptTemplate.Proofs.Filter.FormatText

/-!
# Agreement of formats — one number written in several ways

`currency`, `number` and the shorthands of `format` write the same digits of a number.  They differ in
their separators and in the percent sign: separators stand between groups of three digits, or of a
thousand digits where there should be none, and a percentage is the hundredfold in the digits of its own
places.
-/

namespace ReceiptTemplate

/-! ## Equal magnitudes -/

namespace Decimal

variable {a b : Decimal}

/-- Decimals of one magnitude differ in trailing zeros only. -/
theorem abs_normalize_congr (h : |a.toRat| = |b.toRat|) : a.abs.normalize = b.abs.normalize := by
  obtain ⟨e, ha, hb⟩ : ∃ e, e ≤ a.abs.exponent ∧ e ≤ b.abs.exponent :=
    ⟨min a.exponent b.exponent, min_le_left _ _, min_le_right _ _⟩
  have hvalue : (a.abs.coefficientAt e : ℚ) * 10 ^ e = b.abs.coefficientAt e * 10 ^ e := by
    rw [coefficientAt_cast ha, coefficientAt_cast hb]
    rwa [abs_toRat, abs_toRat] at h
  have hcoefficient : a.abs.coefficientAt e = b.abs.coefficientAt e := by
    exact_mod_cast mul_right_cancel₀ (zpow_ne_zero e (by norm_num)) hvalue
  calc a.abs.normalize
      = (a.abs.lowerTo e).normalize := (normalize_lowerTo ha).symm
    _ = (b.abs.lowerTo e).normalize := by
        rw [lowerTo, lowerTo, hcoefficient]
        rfl
    _ = b.abs.normalize := normalize_lowerTo hb

end Decimal

/-! ## Separators -/

/-- A text without the group separators of a locale. -/
def NumberSymbols.dropGroups (s : NumberSymbols) (text : String) : String :=
  String.ofList (text.toList.filter (· != s.group))

namespace NumberPattern

variable {p q : NumberPattern} {s : NumberSymbols} {d : Decimal}

section Written

variable (hs : s.Distinct) (hp : p.IsPlain) (hplaces : -(p.fraction.least : Int) ≤ d.exponent)

include hs hp hplaces

/-- Without its separators a number is a sign, the whole digits and the fraction. -/
theorem filter_writtenChars : (p.writtenChars s d).filter (· != s.group) = signChars d.negative ++
    (wholeDigits d ++
      if p.fraction.least = 0 then [] else s.decimal :: filledFraction p.fraction.least d) := by
  have hsign : (signChars d.negative).filter (· != s.group) = signChars d.negative := by
    apply Text.filter_bne_of_not_mem
    intro hmem
    exact hs.group.2.1 (mem_signChars hmem)
  have hfraction : s.group ∉
      if p.fraction.least = 0 then [] else s.decimal :: filledFraction p.fraction.least d := by
    split
    · exact List.not_mem_nil
    · intro hmem
      rcases List.mem_cons.1 hmem with hpoint | hdigit
      · exact hs.ne hpoint.symm
      · exact Text.ne_of_isDigit (isDigit_filledFraction hdigit) hs.group.1 rfl
  rw [writtenChars_eq hplaces, List.filter_append, List.filter_append, hsign,
    (separated_wholeDigits hs hp).filter, Text.filter_bne_of_not_mem hfraction]

/-- Patterns of the same places write the same text but for the separators. -/
theorem filter_writtenChars_congr (hq : q.IsPlain) (hleast : p.fraction.least = q.fraction.least) :
    (p.writtenChars s d).filter (· != s.group) = (q.writtenChars s d).filter (· != s.group) := by
  have hplaces' : -(q.fraction.least : Int) ≤ d.exponent := by rwa [← hleast]
  rw [filter_writtenChars hs hp hplaces, filter_writtenChars hs hq hplaces', hleast]

omit hplaces in
/-- A text has nothing to drop exactly when its whole digits are a single group. -/
theorem filter_writtenChars_eq_self_iff :
    (p.writtenChars s d).filter (· != s.group) = p.writtenChars s d ↔
      (wholeDigits d).length ≤ p.groups.1 := by
  rw [← Nat.not_lt, ← group_mem_writtenChars_iff hs hp]
  constructor
  · intro hself hmem
    rw [← hself] at hmem
    simpa using (List.mem_filter.1 hmem).2
  · exact Text.filter_bne_of_not_mem

end Written

end NumberPattern

namespace Filter

open NumberPattern (InGroups wholeDigits)

variable {places : Nat} {d x : Decimal} {l : Locale}

/-! ## Percentages -/

section Percent

variable (isGrouped : Bool)

theorem scale_percent (places : Nat) : (fixedPattern places isGrouped true).scale = 2 :=
  scale_fixedPattern places isGrouped true

/-- The number part of a percentage shows the hundredfold. -/
theorem magnitude_percent (places : Nat) {r y : Decimal} (hvalue : y.toRat = r.toRat * 10 ^ 2) :
    (fixedPattern places isGrouped true).magnitude r = y.abs.normalize := by
  apply Decimal.abs_normalize_congr
  have hpow : (10 : ℚ) ^ (r.exponent + (2 : Nat)) = 10 ^ r.exponent * 10 ^ 2 := by
    rw [zpow_add₀ (by norm_num), zpow_natCast]
  calc |({ r with exponent := r.exponent + (fixedPattern places isGrouped true).scale } : Decimal).toRat|
      = r.coefficient * 10 ^ (r.exponent + (2 : Nat)) := by rw [Decimal.abs_toRat, scale_percent]
    _ = |r.toRat| * 10 ^ 2 := by rw [hpow, Decimal.abs_toRat, mul_assoc]
    _ = |y.toRat| := by rw [hvalue, abs_mul, abs_of_pos (show (0 : ℚ) < 10 ^ 2 by norm_num)]

/-- The percent sign follows the digits of the hundredfold. -/
theorem format_percent {limits : Decimal.Limits} {s : NumberSymbols} (hs : s.Distinct) {r y : Decimal}
    (hmax : 0 ≤ limits.emax) (hplaces : places ≤ Text.maxIntegerDigits)
    (hsign : r.negative = y.negative) (hvalue : y.toRat = r.toRat * 10 ^ 2)
    (hexact : -(places : Int) ≤ y.abs.normalize.exponent)
    (hrange : r.isZero = true ∨ r.adjusted + 2 ≤ limits.emax)
    (hfits : Decimal.FitsAt limits places y.abs.normalize) :
    (fixedPattern places isGrouped true).format limits s r = .ok (String.ofList
      ((fixedPattern places isGrouped false).writtenChars s y ++ ['%'])) := by
  have hnumber : (fixedPattern places isGrouped true).fixedChars limits s ⟨places, places⟩
      y.abs.normalize = .ok _ :=
    NumberPattern.fixedChars_of_fits hmax hexact (fun _ => hplaces) hfits
  have hquote : '\'' ∉ (fixedPattern places isGrouped false).writtenChars s y ++ ['%'] := by
    rw [List.mem_append, not_or]
    exact ⟨NumberPattern.quote_not_mem_writtenChars hs (isPlain_fixedPattern places isGrouped),
      by decide⟩
  have hbelow : ¬(!r.isZero && decide (limits.emax < ({ r with exponent :=
      r.exponent + (fixedPattern places isGrouped true).scale } : Decimal).adjusted)) = true := by
    simp only [Bool.and_eq_true, Bool.not_eq_true', decide_eq_true_eq, not_and, not_lt]
    intro hzero
    rw [hzero] at hrange
    simp only [Bool.false_eq_true, false_or, Decimal.adjusted, scale_percent] at hrange ⊢
    push_cast
    omega
  have hformat : (fixedPattern places isGrouped true).format limits s r
      = ((fixedPattern places isGrouped true).fixedChars limits s ⟨places, places⟩
          ((fixedPattern places isGrouped true).magnitude r)).map fun number => String.ofList
            (NumberPattern.unquote ((NumberPattern.signChars r.negative ++ number) ++ ['%'])) := by
    unfold NumberPattern.format
    dsimp only
    rw [if_neg hbelow]
    cases r.negative <;> rfl
  have hleast : (fixedPattern places isGrouped true).whole.least = 1 := by cases isGrouped <;> rfl
  rw [hformat, magnitude_percent isGrouped places hvalue, hnumber, hsign, hleast]
  show Except.ok (String.ofList (NumberPattern.unquote
    ((fixedPattern places isGrouped false).writtenChars s y ++ ['%']))) = _
  rw [NumberPattern.unquote_of_not_mem hquote]

variable (hx : x.toRat = 100 * d.toRat)

include hx

/-- Rounding the hundredfold is rounding two places further and scaling. -/
theorem toRat_halfUp_hundredfold (places : Nat) :
    (halfUp places x).toRat = (halfUp (places + 2) d).toRat * 10 ^ 2 := by
  have hhundred : x.toRat = d.toRat * 10 ^ 2 := by
    rw [hx]
    ring
  rw [toRat_halfUp, toRat_halfUp, hhundred, roundHalfAway_mul_pow]

theorem negative_halfUp_hundredfold (places : Nat) :
    (halfUp (places + 2) d).negative = (halfUp places x).negative := by
  have hpos : (0 : ℚ) < 10 ^ 2 := by norm_num
  rw [Bool.eq_iff_iff, negative_halfUp_iff, negative_halfUp_iff, ← toRat_halfUp, ← toRat_halfUp,
    toRat_halfUp_hundredfold hx places]
  constructor
  · exact fun h => mul_neg_of_neg_of_pos h hpos
  · exact fun h => neg_of_mul_neg_left h hpos.le

/-- A percentage is the hundredfold in the same places and a percent sign. -/
theorem writeNumber_percent_eq (hplaces : places ≤ Text.maxIntegerDigits)
    (hrounds : Rounds 2 (places + 2) d) :
    writeNumber (fixedPattern places isGrouped true) (places + 2) l d =
      .ok (.text (String.ofList
        ((fixedPattern places isGrouped false).writtenChars l.symbols (halfUp places x) ++ ['%']))) := by
  have hvalue := toRat_halfUp_hundredfold hx places
  have hsign := negative_halfUp_hundredfold hx places
  have hexact : -(places : Int) ≤ (halfUp places x).abs.normalize.exponent :=
    Decimal.le_exponent_normalize (d := (halfUp places x).abs) (le_exponent_halfUp places x)
  have hmax : 0 ≤ (workingLimits (places + 2) 6 (halfUp (places + 2) d)).emax := by
    rw [emax_workingLimits]
    decide
  have hrange := hrounds.2
  have hbelow : InRange 0 (halfUp (places + 2) d) := by
    apply hrange.imp_right
    intro hle
    push_cast at hle ⊢
    omega
  have hfits : Decimal.FitsAt (workingLimits (places + 2) 6 (halfUp (places + 2) d)) places
      (halfUp places x).abs.normalize := by
    rw [← magnitude_percent isGrouped places hvalue]
    cases hzero : (halfUp (places + 2) d).isZero with
    | true =>
      rw [NumberPattern.isZero_magnitude hzero]
      exact .inl rfl
    | false =>
      -- Two places of the precision are taken by the scale.
      have hprecision := le_precision (places + 2) 6 (halfUp (places + 2) d)
      rcases NumberPattern.magnitude_spec (p := fixedPattern places isGrouped true) hzero with
        ⟨-, -, hadjusted, -⟩
      have hleading := hrange.adjusted_le hzero
      rw [Decimal.FitsAt, hadjusted, scale_percent, emax_workingLimits]
      push_cast at hprecision hleading ⊢
      exact .inr ⟨hleading, by omega⟩
  have hround : roundHalfUp (places + 2) d = .ok (halfUp (places + 2) d) :=
    roundHalfUp_eq_ok_iff.2 ⟨rfl, hrounds.1, hbelow⟩
  have hformat := format_percent isGrouped l.distinct_symbols hmax hplaces hsign hvalue hexact hrange hfits
  unfold writeNumber
  rw [hround]
  dsimp only
  rw [hformat]

end Percent

/-! ## Shorthands -/

/-- A format that is a letter and decimal places. -/
def shorthand (letter : Char) (places : Nat) : String :=
  String.ofList (letter :: Text.digitsOf places)

section Shorthand

variable {letter : Char} (hletter : letter.isAlpha = true) (hplaces : places ≤ 99)

include hplaces

/-- A shorthand is short enough to be read whole. -/
theorem formatSpec?_shorthand (named : Entries (Option Value)) :
    formatSpec? ⟨some (.text (shorthand letter places)), named⟩ = some (shorthand letter places) := by
  have hcount := length_digitsOf_places hplaces
  have hlength : (letter :: Text.digitsOf places).length ≤ maxFormatLength := by
    simp only [List.length_cons, maxFormatLength]
    omega
  have hsome : shorthand letter places ≠ "" := by
    intro hempty
    have hchars := congrArg String.toList hempty
    rw [shorthand, String.toList_ofList] at hchars
    cases hchars
  unfold formatSpec?
  dsimp only
  rw [if_neg hsome, Text.take, shorthand, String.toList_ofList, List.take_of_length_le hlength]

include hletter

theorem read_shorthand : NumberFormat.read (shorthand letter places) = .ofLetter letter places := by
  have hcount := length_digitsOf_places hplaces
  have hdigits : (Text.digitsOf places).all Unicode.isDecimalDigit = true := by
    rw [List.all_eq_true]
    intro c hc
    exact Text.isDecimalDigit_of_mem_digitsOf hc
  have hsome : (Text.digitsOf places).isEmpty = false := by
    simpa using Text.digitsOf_ne_nil places
  have hread : shorthandPlaces? (Text.digitsOf places) = some places := by
    unfold shorthandPlaces?
    rw [hdigits, Bool.and_true, if_pos (by simpa using hcount), hsome]
    simp [Text.readDigits_digitsOf]
  unfold NumberFormat.read
  rw [shorthand, String.toList_ofList]
  dsimp only
  rw [if_pos hletter, hread]

/-- The letter of a shorthand chooses the pattern, and its digits are the places. -/
theorem format_shorthand {isGrouped isPercent : Bool} (named : Entries (Option Value))
    (hformat : NumberFormat.ofLetter letter places = .fixed places isGrouped isPercent) :
    format (.number d) ⟨some (.text (shorthand letter places)), named⟩ l =
      writeNumber (fixedPattern places isGrouped isPercent) (if isPercent then places + 2 else places)
        l d := by
  rw [format_of_formatSpec? (formatSpec?_shorthand hplaces named)]
  apply formatNumber_of_pattern?
  rw [read_shorthand hletter hplaces, hformat]
  rfl

end Shorthand

/-! ## Agreement -/

/-- The argument of `number` that asks for decimal places. -/
def placesArgument (places : Nat) : Value :=
  .text (String.ofList (Text.digitsOf places))

/-- Without its separators a grouped number is the ungrouped one, unless that has more than a thousand
whole digits: it is then parted as well. -/
theorem dropGroups_grouped (s : NumberSymbols) (hs : s.Distinct) (d : Decimal) {grouped plain : String}
    (hgrouped : grouped = String.ofList ((fixedPattern 2 true false).writtenChars s (halfUp 2 d)))
    (hplain : plain = String.ofList ((fixedPattern 2 false false).writtenChars s (halfUp 2 d))) :
    s.dropGroups grouped = s.dropGroups plain ∧
      (s.dropGroups grouped = plain ↔ |roundHalfAway 2 d.toRat| < 10 ^ 1000) := by
  have hsame : s.dropGroups grouped = s.dropGroups plain := by
    rw [hgrouped, hplain, NumberSymbols.dropGroups, NumberSymbols.dropGroups, String.toList_ofList,
      String.toList_ofList, NumberPattern.filter_writtenChars_congr hs (isPlain_fixedPattern 2 true)
        (le_exponent_halfUp 2 d) (isPlain_fixedPattern 2 false) rfl]
  have hself := NumberPattern.filter_writtenChars_eq_self_iff (d := halfUp 2 d) hs
    (isPlain_fixedPattern 2 false)
  have hthousand : (fixedPattern 2 false false).groups.1 = 1000 := rfl
  refine ⟨hsame, ?_⟩
  rw [hsame, hplain, NumberSymbols.dropGroups, String.toList_ofList, String.ofList_inj, hself, hthousand,
    NumberPattern.length_wholeDigits_le_iff (by decide), ← Decimal.abs_toRat_lt_pow_iff, toRat_halfUp]

/-- Formats of one number agree.  `currency` parts the whole digits in threes and shows the digits of
`number` with two places; the texts are equal without the separators, and `number` has none of its own
below ten to the thousandth.  The shorthands write what `currency` and `number` write, and a percentage
is the hundredfold in as many places.  Every number is written, apart from zeros that no precision takes. -/
theorem number_formats_agree (l : Locale) (d hundredfold : Decimal) (hd : |d.toRat| < 10 ^ 999980)
    (hhundred : hundredfold.toRat = 100 * d.toRat) (args : FilterArguments)
    (named : Entries (Option Value)) :
    ((d.isZero = true → HasPrecision 2 d) → ∃ (n : FixedNumber 2) (plain : String),
      currency (.number d) args l = .ok (.text (n.text l.symbols)) ∧ InGroups 3 n.groups ∧
        number (.number d) ⟨some (placesArgument 2), named⟩ l = .ok (.text plain) ∧
        l.symbols.dropGroups (n.text l.symbols) = l.symbols.dropGroups plain ∧
        (l.symbols.dropGroups (n.text l.symbols) = plain ↔ |roundHalfAway 2 d.toRat| < 10 ^ 1000)) ∧
    format (.number d) ⟨some (.text (shorthand 'N' 2)), named⟩ l = currency (.number d) args l ∧
    (∀ places ≤ 20,
      format (.number d) ⟨some (.text (shorthand 'F' places)), named⟩ l
          = number (.number d) ⟨some (placesArgument places), named⟩ l ∧
        ((d.isZero = true → HasPrecision places d) →
          ∃ text, number (.number d) ⟨some (placesArgument places), named⟩ l = .ok (.text text))) ∧
    ∀ places ≤ 99, (d.isZero = true → HasPrecision (places + 2) d) →
      (hundredfold.isZero = true → HasPrecision places hundredfold) → ∃ text,
        format (.number hundredfold) ⟨some (.text (shorthand 'N' places)), named⟩ l = .ok (.text text) ∧
          format (.number d) ⟨some (.text (shorthand 'P' places)), named⟩ l
            = .ok (.text (text ++ "%")) := by
  refine ⟨?_, ?_, ?_, ?_⟩
  · intro hzero
    have hrounds : Rounds 0 2 d := rounds_of_lt hd (by decide) (by decide) hzero
    let n := FixedNumber.ofDecimal (fixedPattern 2 true false) (halfUp 2 d) (le_exponent_halfUp 2 d)
    have htext : n.text l.symbols = String.ofList
        ((fixedPattern 2 true false).writtenChars l.symbols (halfUp 2 d)) :=
      congrArg String.ofList (FixedNumber.chars_ofDecimal l.symbols rfl _)
    have hdrop := dropGroups_grouped l.symbols l.distinct_symbols d htext rfl
    refine ⟨n, _, ?_, ?_, number_eq (by decide) named hrounds, hdrop⟩
    · rw [htext, currency_eq args hrounds]
    · exact NumberPattern.inGroups_digitGroups (by decide) rfl (NumberPattern.wholeDigits_ne_nil _)
  · rw [format_shorthand (by decide) (by decide) named rfl]
    rfl
  · intro places hplaces
    have hnumber := number_digitsOf (d := d) (l := l) hplaces named
    refine ⟨?_, ?_⟩
    · rw [format_shorthand (by decide) (by omega) named rfl, placesArgument, hnumber]
      rfl
    · intro hzero
      have hrounds : Rounds 0 places d := rounds_of_lt hd (by decide) (by omega) hzero
      exact ⟨_, number_eq hplaces named hrounds⟩
  · intro places hplaces hzero hzeroHundredfold
    have hdigits : places ≤ Text.maxIntegerDigits := Nat.le_trans hplaces (by decide)
    -- The hundredfold has two digits more, for which the bound leaves room.
    have hscaled : |hundredfold.toRat| < 10 ^ 999982 := by
      rw [hhundred, abs_mul, abs_of_pos (show (0 : ℚ) < 100 by norm_num)]
      calc 100 * |d.toRat| < 100 * 10 ^ 999980 := by gcongr
        _ = 10 ^ 999982 := by rw [show (999982 : Nat) = 2 + 999980 from rfl, pow_add]; norm_num
    have hplain := writeNumber_eq (l := l) true hdigits
      (rounds_of_lt hscaled (by decide) (by omega) hzeroHundredfold)
    have hpercent := writeNumber_percent_eq (l := l) true hhundred hdigits
      (rounds_of_lt hd (by decide) (by omega) hzero)
    rw [String.ofList_append] at hpercent
    rw [format_shorthand (by decide) hplaces named rfl, format_shorthand (by decide) hplaces named rfl]
    exact ⟨_, hplain, hpercent⟩

/-- The ungrouped text of ten to the thousandth has a separator in it. -/
theorem number_formats_agree_thousand_zeros :
    let d : Decimal := ⟨false, 1, 1000⟩
    let hundredfold : Decimal := ⟨false, 1, 1002⟩
    (|d.toRat| < 10 ^ 999980 ∧ hundredfold.toRat = 100 * d.toRat) ∧ ∃ grouped plain,
      currency (.number d) .none .standard = .ok (.text grouped) ∧
        number (.number d) ⟨some (placesArgument 2), []⟩ .standard = .ok (.text plain) ∧
        Locale.standard.symbols.dropGroups grouped ≠ plain := by
  intro d hundredfold
  have hd : |d.toRat| < 10 ^ 999980 := by
    rw [Decimal.abs_toRat_lt_pow_iff]
    exact .inr (by decide)
  have hhundred : hundredfold.toRat = 100 * d.toRat := by
    have hpow : (10 : ℚ) ^ (1002 : Int) = 100 * 10 ^ (1000 : Int) := by
      rw [show (1002 : Int) = 2 + 1000 from rfl, zpow_add₀ (by norm_num)]
      norm_num
    have hvalue (e : Int) : (⟨false, 1, e⟩ : Decimal).toRat = 10 ^ e := by simp [Decimal.toRat]
    rw [hvalue, hvalue, hpow]
  have hlarge : ¬|roundHalfAway 2 d.toRat| < 10 ^ 1000 := by
    rw [← toRat_halfUp, Decimal.abs_toRat_lt_pow_iff]
    decide
  obtain ⟨n, plain, hgrouped, -, hplain, -, hdrop⟩ :=
    (number_formats_agree .standard d hundredfold hd hhundred .none []).1 (by decide)
  exact ⟨⟨hd, hhundred⟩, _, plain, hgrouped, hplain, fun h => hlarge (hdrop.1 h)⟩

end Filter
end ReceiptTemplate
