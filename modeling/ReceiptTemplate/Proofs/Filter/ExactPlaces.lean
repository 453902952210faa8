import ReceiptTemplate.Proofs.Filter.FixedPlaces

/-!
# Exact places — the digits that `currency` and `number` write

A number in fixed places consists of a sign, whole digits in groups and as many digits of a fraction as
there are places.  Both filters write such a number, and it reads as the one that was given, rounded
half away from zero: no digit is lost, however many there are.  The sign is an ASCII hyphen in every
locale.
-/

namespace ReceiptTemplate

/-! ## Whole digits -/

namespace NumberPattern

variable {p : NumberPattern}

/-- The digits before the point start with a zero only if there is no other one. -/
theorem wholeDigits_of_head_zero {d : Decimal} (h : (wholeDigits d).head? = some '0') :
    wholeDigits d = ['0'] := by
  have hsplits := splits_normalize d
  obtain ⟨rest, hrest⟩ := List.head?_eq_some_iff.1 h
  have hlength := hsplits.length_whole
  rw [hrest, List.length_cons] at hlength
  by_contra hlong
  have hsome : rest ≠ [] := by
    rintro rfl
    exact hlong hrest
  have hpos := List.length_pos_iff.2 hsome
  have hfraction := hsplits.length_fraction
  -- Without the zero the digits are fewer than the number has.
  have hvalue : d.abs.normalize.coefficientAt (min d.abs.normalize.exponent 0)
      < 10 ^ (rest.length + (splitPoint d.abs.normalize).2.length) := by
    rw [← hsplits.value, hrest, ← List.length_append]
    exact Text.readDigits_lt (rest ++ (splitPoint d.abs.normalize).2)
  have hne : d.abs.normalize.coefficient ≠ 0 := by
    intro hzero
    have hadjusted : d.abs.normalize.adjusted = 0 := by
      rw [Decimal.isZero_iff.symm, Decimal.isZero_normalize] at hzero
      exact Decimal.adjusted_normalize_of_isZero hzero
    omega
  have hcount : Decimal.digitCount (d.abs.normalize.coefficientAt (min d.abs.normalize.exponent 0))
      = Decimal.digitCount d.abs.normalize.coefficient +
        (d.abs.normalize.exponent - min d.abs.normalize.exponent 0).toNat :=
    Decimal.digitCount_mul_pow hne _
  have hle := (Decimal.digitCount_le_iff (by omega)).2 hvalue
  have hadjusted : d.abs.normalize.adjusted
      = d.abs.normalize.exponent + Decimal.digitCount d.abs.normalize.coefficient - 1 := rfl
  omega

/-! ## Groups of one size -/

/-- Groups of a size, of which only the first one may be shorter. -/
def InGroups (size : Nat) (groups : List (List Char)) : Prop :=
  ∃ first rest, groups = first :: rest ∧ 0 < first.length ∧ first.length ≤ size ∧
    ∀ group ∈ rest, group.length = size

/-- In reverse order the shorter group comes last. -/
theorem groupsFrom_of_pos {size : Nat} (hsize : 0 < size) {digits : List Char} (hdigits : digits ≠ []) :
    ∃ full last, groupsFrom size size digits = full ++ [last] ∧ 0 < last.length ∧
      last.length ≤ size ∧ ∀ group ∈ full, group.length = size := by
  have hpos := List.length_pos_iff.2 hdigits
  by_cases hdrop : digits.drop size = []
  · refine ⟨[], digits, ?_, hpos, ?_, by simp⟩
    · rw [groupsFrom, dif_pos hdrop, List.nil_append]
    · rwa [List.drop_eq_nil_iff] at hdrop
  · obtain ⟨full, last, hgroups, hlast, hle, hfull⟩ := groupsFrom_of_pos hsize hdrop
    refine ⟨digits.take size :: full, last, ?_, hlast, hle, ?_⟩
    · rw [groupsFrom, dif_neg hdrop, if_neg hsize.ne', hgroups, List.cons_append]
    · intro group hgroup
      rcases List.mem_cons.1 hgroup with rfl | hgroup
      · rw [List.drop_eq_nil_iff, not_le] at hdrop
        rw [List.length_take]
        omega
      · exact hfull group hgroup
termination_by digits.length
decreasing_by
  rw [List.length_drop]
  omega

theorem inGroups_digitGroups {size : Nat} (hsize : 0 < size) (hgroups : p.groups = (size, size))
    {digits : List Char} (hdigits : digits ≠ []) : InGroups size (p.digitGroups digits) := by
  have hreverse : digits.reverse ≠ [] := by simpa using hdigits
  obtain ⟨full, last, hfrom, hlast, hle, hfull⟩ := groupsFrom_of_pos hsize hreverse
  refine ⟨last.reverse, (full.map List.reverse).reverse, ?_, ?_, ?_, ?_⟩
  · rw [digitGroups, hgroups, hfrom]
    simp
  · rwa [List.length_reverse]
  · rwa [List.length_reverse]
  · intro group hgroup
    obtain ⟨reversed, hmem, rfl⟩ := List.mem_map.1 (List.mem_reverse.1 hgroup)
    rw [List.length_reverse, hfull reversed hmem]

end NumberPattern

/-! ## Numbers in fixed places -/

/-- A number with a fixed number of decimal places, as it is written. -/
structure FixedNumber (places : Nat) where
  negative : Bool
  /-- The digits before the point, in groups from the left. -/
  groups : List (List Char)
  fraction : List Char
  digits : ∀ c ∈ groups.flatten ++ fraction, c.isDigit = true
  whole_ne_nil : groups.flatten ≠ []
  leading : groups.flatten.head? = some '0' → groups.flatten = ['0']
  length_fraction : fraction.length = places

namespace FixedNumber

open NumberPattern (digitGroups filledFraction plainForm signChars wholeDigits writtenChars)

variable {places : Nat} {s : NumberSymbols} {d : Decimal} {x : ℚ}

def whole (n : FixedNumber places) : List Char :=
  n.groups.flatten

def chars (s : NumberSymbols) (n : FixedNumber places) : List Char :=
  signChars n.negative ++
    (List.intercalate [s.group] n.groups ++ if places = 0 then [] else s.decimal :: n.fraction)

def text (s : NumberSymbols) (n : FixedNumber places) : String :=
  String.ofList (n.chars s)

/-- The number reads as another one rounded half away from zero, and it has a sign if that is below
zero. -/
structure IsRounded (s : NumberSymbols) (n : FixedNumber places) (x : ℚ) : Prop where
  sign : n.negative = true ↔ roundHalfAway places x < 0
  value : ∃ r, Decimal.read? (String.ofList (plainForm s (n.chars s))) = some (.finite r) ∧
    r.toRat = roundHalfAway places x

/-- A decimal in the groups of a pattern. -/
def ofDecimal (p : NumberPattern) (d : Decimal) (hplaces : -(places : Int) ≤ d.exponent) :
    FixedNumber places where
  negative := d.negative
  groups := p.digitGroups (wholeDigits d)
  fraction := filledFraction places d
  digits := by
    rw [NumberPattern.flatten_digitGroups]
    intro c hc
    rcases List.mem_append.1 hc with hc | hc
    · exact NumberPattern.isDigit_wholeDigits hc
    · exact NumberPattern.isDigit_filledFraction hc
  whole_ne_nil := by
    rw [NumberPattern.flatten_digitGroups]
    exact NumberPattern.wholeDigits_ne_nil d
  leading := by
    rw [NumberPattern.flatten_digitGroups]
    exact NumberPattern.wholeDigits_of_head_zero
  length_fraction := NumberPattern.length_filledFraction hplaces

theorem whole_ofDecimal (p : NumberPattern) (hplaces : -(places : Int) ≤ d.exponent) :
    (ofDecimal p d hplaces).whole = wholeDigits d :=
  NumberPattern.flatten_digitGroups p _

theorem chars_ofDecimal {p : NumberPattern} (s : NumberSymbols) (hleast : p.fraction.least = places)
    (hplaces : -(places : Int) ≤ d.exponent) :
    (ofDecimal p d hplaces).chars s = p.writtenChars s d := by
  subst hleast
  rw [NumberPattern.writtenChars_eq hplaces,
    NumberPattern.wholeChars_eq p s (NumberPattern.wholeDigits_ne_nil d)]
  rfl

end FixedNumber

namespace Filter

open NumberPattern (InGroups)

variable {places : Nat} {d : Decimal} {l : Locale}

/-- Within the exponents fixed places are written of the rounded number. -/
theorem writeNumber_fixed (isGrouped : Bool) (hplaces : places ≤ maxPlaces) {k : Nat}
    (hd : |d.toRat| < 10 ^ k) (hk : k + 0 ≤ 999999) (hzero : d.isZero = true → HasPrecision places d) :
    ∃ n : FixedNumber places,
      writeNumber (fixedPattern places isGrouped false) places l d = .ok (.text (n.text l.symbols)) ∧
        n.IsRounded l.symbols d.toRat ∧
        n.groups = (fixedPattern places isGrouped false).digitGroups n.whole := by
  have hmost : maxPlaces = 20 := rfl
  have hdigits : Text.maxIntegerDigits = 4300 := rfl
  have hlimit : Decimal.exponentLimit = 999999999999999999 := rfl
  have hmax : Decimal.Limits.standard.emax = 999999 := rfl
  have hexponent := le_exponent_halfUp places d
  have hrounds := rounds_of_lt hd hk (Nat.le_trans hplaces (by decide)) hzero
  have hleast : (fixedPattern places isGrouped false).fraction.least = places := rfl
  have hchars := FixedNumber.chars_ofDecimal l.symbols hleast hexponent
  have hwhole := FixedNumber.whole_ofDecimal (fixedPattern places isGrouped false) hexponent
  -- The text is far shorter than any that is too long to be read.
  have hadjusted : (halfUp places d).abs.normalize.adjusted < 10 ^ 6 := by
    rw [Decimal.adjusted_abs_normalize_lt_iff (by decide)]
    apply hrounds.2.imp_right
    omega
  refine ⟨.ofDecimal (fixedPattern places isGrouped false) (halfUp places d) hexponent, ?_, ⟨?_, ?_⟩, ?_⟩
  · rw [writeNumber_eq isGrouped (by omega) hrounds, FixedNumber.text, hchars]
  · exact negative_halfUp_iff places d
  · have hread := NumberPattern.read?_plainForm l.distinct_symbols
      (isPlain_fixedPattern places isGrouped) hexponent (by omega)
    have hvalue := Decimal.toRat_lowerTo hexponent
    rw [toRat_halfUp] at hvalue
    rw [hchars]
    exact ⟨_, hread, hvalue⟩
  · rw [hwhole]
    rfl

/-- The decimal places that the arguments of `number` ask for. -/
def askedPlaces (args : FilterArguments) : Nat :=
  clamp maxPlaces ((integerArgument? args.positional).getD 0)

/-- `number` and `currency` write a number in fixed places that reads as the given one, rounded half
away from zero.  `currency` parts the whole digits in threes, and `number` leaves up to a thousand of
them together.  Only of zeros it has to be said that there is a precision that takes their exponents. -/
theorem number_currency_exact (l : Locale) (d : Decimal) (hd : |d.toRat| < 10 ^ 999990)
    (args : FilterArguments) :
    ((d.isZero = true → HasPrecision (askedPlaces args) d) →
        ∃ n : FixedNumber (askedPlaces args),
          number (.number d) args l = .ok (.text (n.text l.symbols)) ∧
            n.IsRounded l.symbols d.toRat ∧ (n.whole.length ≤ 1000 → n.groups = [n.whole])) ∧
      ((d.isZero = true → HasPrecision 2 d) →
        ∃ n : FixedNumber 2, currency (.number d) args l = .ok (.text (n.text l.symbols)) ∧
          n.IsRounded l.symbols d.toRat ∧ InGroups 3 n.groups) := by
  constructor
  · intro hzero
    obtain ⟨n, hwrite, hrounded, hgroups⟩ :=
      writeNumber_fixed (l := l) false (Nat.min_le_left maxPlaces _) hd (by omega) hzero
    refine ⟨n, hwrite, hrounded, ?_⟩
    intro hlength
    rw [hgroups]
    exact NumberPattern.digitGroups_of_le hlength
  · intro hzero
    have htwo : 2 ≤ maxPlaces := by decide
    obtain ⟨n, hwrite, hrounded, hgroups⟩ :=
      writeNumber_fixed true htwo hd (by omega) hzero
    refine ⟨n, hwrite, hrounded, ?_⟩
    rw [hgroups]
    exact NumberPattern.inGroups_digitGroups (by decide) rfl n.whole_ne_nil

/-- Half a cent below zero is rounded to a cent below zero. -/
theorem number_currency_exact_half_cent :
    let d : Decimal := ⟨true, 5, -3⟩
    |d.toRat| < 10 ^ 999990 ∧ ∃ n : FixedNumber 2,
      currency (.number d) .none .standard = .ok (.text (n.text Locale.standard.symbols)) ∧
        n.negative = true ∧ ∃ r, Decimal.read? (String.ofList
            (NumberPattern.plainForm Locale.standard.symbols (n.chars Locale.standard.symbols)))
          = some (.finite r) ∧ r.toRat = -1 / 100 := by
  intro d
  have hd : |d.toRat| < 10 ^ 999990 := by
    rw [Decimal.abs_toRat_lt_pow_iff]
    exact .inr (by decide)
  have hround : roundHalfAway 2 d.toRat = -1 / 100 := by
    have hvalue : d.toRat = -(5 / 1000) := by norm_num [Decimal.toRat, d]
    have hnearest : round (5 / 1000 * 10 ^ 2 : ℚ) = 1 := by
      rw [round_eq, Int.floor_eq_iff]
      norm_num
    rw [hvalue, roundHalfAway_neg, roundHalfAway_of_nonneg 2 (by norm_num), hnearest]
    norm_num
  obtain ⟨n, hwrite, hrounded, -⟩ := (number_currency_exact .standard d hd .none).2 (by decide)
  have hsign := hrounded.sign
  have hvalue := hrounded.value
  rw [hround] at hsign hvalue
  exact ⟨hd, n, hwrite, hsign.2 (by norm_num), hvalue⟩

/-- Swedish has a minus sign of its own, which is not the sign that is written. -/
theorem number_hyphen_swedish :
    let swedish : Locale := ⟨⟨"sv", none, none, none, none⟩⟩
    number (.number ⟨true, 5, 0⟩) .none swedish = .ok (.text "-5") ∧
      ¬swedish.symbols.minus.toList <+: "-5".toList := by
  intro swedish
  have hhalf : halfUp 0 ⟨true, 5, 0⟩ = ⟨true, 5, 0⟩ := rfl
  have hwhole : NumberPattern.wholeDigits ⟨true, 5, 0⟩ = ['5'] := by decide
  have hchars : (fixedPattern 0 false false).writtenChars swedish.symbols ⟨true, 5, 0⟩ = ['-', '5'] := by
    rw [NumberPattern.writtenChars_eq (by decide), NumberPattern.wholeChars_eq _ _ (by rw [hwhole]; simp),
      hwhole, NumberPattern.digitGroups_of_le (by decide)]
    rfl
  have hwrite : writeNumber (fixedPattern 0 false false) 0 swedish ⟨true, 5, 0⟩
      = .ok (.text (String.ofList
          ((fixedPattern 0 false false).writtenChars swedish.symbols (halfUp 0 ⟨true, 5, 0⟩)))) :=
    writeNumber_eq false (by decide) ⟨by decide, .inr (by decide)⟩
  rw [hhalf, hchars] at hwrite
  exact ⟨hwrite, by decide⟩

end Filter
end ReceiptTemplate
