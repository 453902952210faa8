import ReceiptTemplate.Proofs.Number.Notation

/-!
# Shown values — the number that a pattern shows of a magnitude

Each kind of number part shows a magnitude rounded half-even at the last digit that it has room for:

* fixed places at the last place,
* an exponent at the last place of the number before it, or not at all if the pattern has no fraction,
* significant digits at the last of them.

Significant digits have one flaw.  Where a magnitude below a tenth is rounded up to the next power of
ten, the zeros before its digits are those of the magnitude before it was rounded, and a tenth of the
rounded value is shown.
-/

namespace ReceiptTemplate

namespace Decimal

theorem toRat_leadingAt (e : ℤ) (d : Decimal) :
    (d.leadingAt e).toRat * 10 ^ (d.adjusted - e) = d.toRat := by
  have hexponent : d.exponent = d.exponent - (d.adjusted - e) + (d.adjusted - e) := by omega
  have hsplit : (10 : ℚ) ^ d.exponent = 10 ^ (d.exponent - (d.adjusted - e)) * 10 ^ (d.adjusted - e) := by
    rw [← ten_zpow_add, ← hexponent]
  unfold toRat leadingAt
  rw [hsplit]
  split <;> ring

theorem eq_of_roundWithin? {l : Limits} {tie : Tie} {places : Nat} {d r : Decimal}
    (h : roundWithin? l tie places d = some r) : r = d.roundPlaces tie places := by
  unfold roundWithin? at h
  dsimp only at h
  split_ifs at h <;> exact (Option.some.inj h).symm

/-- The digits of a whole magnitude. -/
theorem plainChars_spec {r : Decimal} (h : 0 ≤ r.exponent) :
    r.plainChars ≠ [] ∧ (∀ c ∈ r.plainChars, c.isDigit = true) ∧
      Text.readDigits r.plainChars = r.coefficientAt 0 ∧
      r.plainChars.length = digitCount (r.coefficientAt 0) := by
  rw [plainChars_of_nonneg h]
  refine ⟨Text.digitsOf_ne_nil _, ?_, Text.readDigits_digitsOf _, rfl⟩
  intro c hc
  exact Text.isDigit_of_mem_digitsOf hc

end Decimal

namespace NumberPattern

open Decimal (Limits digitCount)
open Text (digitsOf readDigits)

variable {p : NumberPattern} {l : Limits} {s : NumberSymbols} {m : Decimal} {number : List Char}
  {whole fraction : List Char}

/-! ## Fixed places -/

/-- A number part as the text of digits around a point, with the value of the digits. -/
structure Shows (p : NumberPattern) (least : Nat) (s : NumberSymbols) (chars : List Char) (x : ℚ)
    (whole fraction : List Char) : Prop where
  chars_eq : chars = p.pointText least s whole fraction
  ne_nil : whole ≠ []
  digits : ∀ c ∈ whole ++ fraction, c.isDigit = true
  value : pointValue whole fraction = x

theorem Shows.denoted? {least : Nat} {chars : List Char} {x : ℚ} (hs : s.Distinct) (hm : Marked s)
    (h : Shows p least s chars x whole fraction) : denoted? s chars = some x := by
  rw [h.chars_eq, denoted?_pointText hs hm h.ne_nil h.digits, h.value]

theorem shows_fixedChars {places : DigitRange} (h : p.fixedChars l s places m = .ok number) :
    ∃ whole fraction,
      Shows p p.whole.least s number (roundAt (-places.most) |m.toRat|) whole fraction := by
  unfold fixedChars at h
  cases hround : Decimal.roundWithin? l .toEven places.most m with
  | none =>
    rw [hround] at h
    cases h
  | some r =>
    have hr := Decimal.eq_of_roundWithin? hround
    rcases splitPoint_spec r with ⟨hne, hdigits, hvalue⟩
    rw [hround] at h
    dsimp only at h
    split at h
    · cases h
    · refine ⟨(splitPoint r).1, shownFraction places.least (splitPoint r).2, ?_, hne, ?_, ?_⟩
      · exact (Except.ok.inj h).symm
      · intro c hc
        rcases List.mem_append.1 hc with hc | hc
        · exact hdigits c (List.mem_append_left _ hc)
        · exact isDigit_shownFraction (fun d hd => hdigits d (List.mem_append_right _ hd)) c hc
      · rw [pointValue_shownFraction, hvalue, hr, Decimal.toRat_roundPlaces_toEven, abs_roundAt]

/-! ## Exponents -/

theorem scientificChars_eq (p : NumberPattern) (l : Limits) (s : NumberSymbols) (form : ExponentForm)
    (m : Decimal) :
    p.scientificChars l s form m =
      (p.fixedChars l s (p.mantissaPlaces (m.leadingAt p.lead)) (m.leadingAt p.lead)).map fun number =>
        number ++ (s.exponential.toList ++ p.exponentChars s form (m.adjusted - p.lead)) := by
  have hlead : ((max 1 p.whole.least : Nat) : Int) - 1 = p.lead := by
    simp only [lead]
    omega
  unfold scientificChars
  dsimp only
  rw [hlead]
  simp only [List.append_assoc]
  rfl

theorem denoted?_scientificChars (hs : s.Distinct) (hm : Marked s) {form : ExponentForm}
    (h : p.scientificChars l s form m = .ok number) :
    denoted? s number = some (roundAt (-(p.mantissaPlaces (m.leadingAt p.lead)).most)
      |(m.leadingAt p.lead).toRat| * 10 ^ (m.adjusted - p.lead)) := by
  rw [scientificChars_eq] at h
  cases hfixed : p.fixedChars l s (p.mantissaPlaces (m.leadingAt p.lead)) (m.leadingAt p.lead) with
  | error fault =>
    rw [hfixed] at h
    cases h
  | ok part =>
    rw [hfixed] at h
    obtain ⟨whole, fraction, hshows⟩ := shows_fixedChars hfixed
    have hnumber := (Except.ok.inj h).symm
    rw [hnumber, hshows.chars_eq, denoted?_exponent hs hm hshows.ne_nil hshows.digits _
      (readExponent?_exponentChars hs hm form _), hshows.value]

/-! ## Significant digits -/

/-- A magnitude rounded to significant digits, in units of the last of them. -/
def significand (count : Nat) (m : Decimal) : Nat :=
  ((m.leadingAt (count - 1)).roundPlaces .toEven 0).coefficientAt 0

section Significand

variable (count : Nat) (m : Decimal)

theorem exponent_significand : 0 ≤ ((m.leadingAt (count - 1)).roundPlaces .toEven 0).exponent := by
  have hle := Decimal.le_exponent_roundPlaces .toEven 0 (m.leadingAt (count - 1))
  simpa using hle

theorem significand_mul : (significand count m : ℚ) * 10 ^ (m.adjusted + 1 - count)
    = roundAt (m.adjusted + 1 - count) |m.toRat| := by
  have hunits : (significand count m : ℚ) = roundAt 0 |(m.leadingAt (count - 1)).toRat| := by
    have hcast := Decimal.coefficientAt_cast (exponent_significand count m)
    have hround := Decimal.toRat_roundPlaces_toEven 0 (m.leadingAt (count - 1))
    rw [zpow_zero, mul_one, ← Decimal.abs_toRat, hround, abs_roundAt] at hcast
    simpa [significand] using hcast
  have hshift : |(m.leadingAt (count - 1)).toRat| * 10 ^ (m.adjusted + 1 - count) = |m.toRat| := by
    have hleading := congrArg abs (Decimal.toRat_leadingAt (count - 1) m)
    have hexponent : m.adjusted - (count - 1) = m.adjusted + 1 - count := by ring
    rwa [abs_mul, abs_of_pos (ten_zpow_pos _), hexponent] at hleading
  have hround := roundAt_mul_ten_zpow 0 (m.adjusted + 1 - count) |(m.leadingAt (count - 1)).toRat|
  rw [zero_add, hshift] at hround
  rw [hunits, hround]

theorem significand_le : significand count m ≤ 10 ^ count := by
  have hpos := ten_zpow_pos (m.adjusted + 1 - count)
  have hle : roundAt (m.adjusted + 1 - count) |m.toRat| ≤ 10 ^ (m.adjusted + 1) :=
    roundAt_le_ten_zpow (by omega) (Decimal.abs_toRat_lt m).le
  have hsplit : (10 : ℚ) ^ (m.adjusted + 1) = 10 ^ count * 10 ^ (m.adjusted + 1 - count) := by
    rw [← zpow_natCast, ← ten_zpow_add]
    congr 1
    ring
  rw [← significand_mul, hsplit, mul_le_mul_iff_left₀ hpos] at hle
  exact_mod_cast hle

theorem le_significand (hm : m.isZero = false) : 10 ^ count ≤ significand (count + 1) m := by
  have hpos := ten_zpow_pos (m.adjusted + 1 - (count + 1 : ℕ))
  have hle : 10 ^ m.adjusted ≤ roundAt (m.adjusted + 1 - (count + 1 : ℕ)) |m.toRat| :=
    ten_zpow_le_roundAt (by push_cast; omega) (Decimal.le_abs_toRat hm)
  have hsplit : (10 : ℚ) ^ m.adjusted = 10 ^ count * 10 ^ (m.adjusted + 1 - (count + 1 : ℕ)) := by
    rw [← zpow_natCast, ← ten_zpow_add]
    congr 1
    push_cast
    ring
  rw [← significand_mul, hsplit, mul_le_mul_iff_left₀ hpos] at hle
  exact_mod_cast hle

/-- There are as many digits as were asked for, unless a carry gives one more or there are none. -/
theorem digitCount_significand : significand count m = 0 ∨
    significand count m < 10 ^ count ∧ digitCount (significand count m) = count ∨
      significand count m = 10 ^ count ∧ digitCount (significand count m) = count + 1 := by
  by_cases hnone : significand count m = 0
  · exact .inl hnone
  right
  rcases (significand_le count m).lt_or_eq with hlt | heq
  · cases count with
    | zero => omega
    | succ count =>
      have hm : m.isZero = false := by
        rw [Bool.eq_false_iff]
        intro hzero
        have hmul := significand_mul (count + 1) m
        rw [Decimal.toRat_of_isZero hzero, abs_zero, roundAt_zero, mul_eq_zero] at hmul
        rcases hmul with hmul | hmul
        · exact hnone (by exact_mod_cast hmul)
        · exact absurd hmul (ten_zpow_pos _).ne'
      exact .inl ⟨hlt, Decimal.digitCount_eq_of_lt (le_significand count m hm) hlt⟩
  · refine .inr ⟨heq, ?_⟩
    rw [heq]
    exact Decimal.digitCount_eq_of_lt (Nat.le_refl _) (Nat.pow_lt_pow_right (by decide) (by omega))

end Significand

section Parts

variable {digits : List Char}

theorem pointValue_below (zeros : Nat) (digits : List Char) :
    pointValue ['0'] (List.replicate zeros '0' ++ digits)
      = readDigits digits * 10 ^ (-((zeros + digits.length : ℕ) : ℤ)) := by
  have hzeros : ['0'] ++ (List.replicate zeros '0' ++ digits)
      = List.replicate (zeros + 1) '0' ++ digits := by
    rw [List.replicate_succ]
    rfl
  rw [pointValue, hzeros, Text.readDigits_zeros_append, List.length_append, List.length_replicate]

theorem pointValue_cut (n : Nat) (digits : List Char) :
    pointValue (digits.take n) (digits.drop n)
      = readDigits digits * 10 ^ (-((digits.length - n : ℕ) : ℤ)) := by
  rw [pointValue, List.take_append_drop, List.length_drop]

/-- Of the digits after the demanded ones the zeros at the end are left out. -/
theorem pointValue_demanded {n demanded : Nat} (hn : n ≤ demanded) (hlength : n ≤ digits.length)
    (whole zeros : List Char) :
    pointValue whole (zeros ++ (digits.take demanded).drop n ++ trimZeros (digits.drop demanded))
      = pointValue whole (zeros ++ digits.drop n) := by
  have hsplit : digits.drop n = (digits.take demanded).drop n ++ digits.drop demanded := by
    have htake : n ≤ (digits.take demanded).length := by
      rw [List.length_take]
      omega
    rw [← List.drop_append_of_le_length htake, List.take_append_drop]
  have hzeros := trimZeros_append (digits.drop demanded)
  rw [hsplit, ← pointValue_append_zeros whole _
    ((digits.drop demanded).length - (trimZeros (digits.drop demanded)).length), List.append_assoc,
    hzeros, List.append_assoc]

end Parts

/-- The digits of a significand around the point. -/
theorem significantDigits?_cases {range : DigitRange}
    (h : significantDigits? l range m = some (whole, fraction)) :
    ∃ digits : List Char, digits ≠ [] ∧ (∀ c ∈ digits, c.isDigit = true) ∧
      readDigits digits = significand range.most m ∧
      digits.length = digitCount (significand range.most m) ∧
      ((∃ k : Nat, m.adjusted + 1 - range.most = k ∧ whole = digits ++ List.replicate k '0' ∧
          fraction = []) ∨
        ∃ k n demanded : Nat, m.adjusted + 1 - range.most = -((k + 1 : ℕ) : ℤ) ∧
          n = digits.length - (k + 1) ∧ n ≤ demanded ∧
          whole = (if n = 0 then ['0'] else digits.take n) ∧
          fraction = List.replicate (-(m.adjusted + 1)).toNat '0' ++ (digits.take demanded).drop n ++
            trimZeros (digits.drop demanded)) := by
  have hshift : ({ m with exponent := m.exponent + ((range.most : Int) - 1 - m.adjusted) } : Decimal)
      = m.leadingAt (range.most - 1) := by
    simp only [Decimal.leadingAt, Decimal.mk.injEq, true_and]
    omega
  unfold significantDigits? at h
  dsimp only at h
  rw [hshift] at h
  obtain ⟨r, hround, hparts⟩ := Option.map_eq_some_iff.1 h
  obtain rfl := Decimal.eq_of_roundWithin? hround
  rcases Decimal.plainChars_spec (exponent_significand range.most m) with ⟨hne, hdigits, hvalue, hlength⟩
  refine ⟨_, hne, hdigits, hvalue, hlength, ?_⟩
  split at hparts
  · next hplaces =>
    cases hparts
    exact .inl ⟨(-((range.most : Int) - 1 - m.adjusted)).toNat, by omega, rfl, rfl⟩
  · next hplaces =>
    cases hparts
    refine .inr ⟨((range.most : Int) - 1 - m.adjusted).toNat - 1, _, _, by omega, ?_,
      Nat.le_add_right _ _, rfl, rfl⟩
    congr 1
    omega

section Value

variable {count k : Nat} {digits : List Char} (hvalue : readDigits digits = significand count m)
  (hlength : digits.length = digitCount (significand count m))
  (hk : m.adjusted + 1 - count = -((k + 1 : ℕ) : ℤ))

include hvalue hlength hk

/-- All digits of a significand stand after the point: a carry is shown one place too low. -/
theorem pointValue_significand_below (hbelow : digits.length ≤ k + 1) :
    pointValue ['0'] (List.replicate (-(m.adjusted + 1)).toNat '0' ++ digits) =
      if m.adjusted < -1 ∧ significand count m = 10 ^ count then 10 ^ m.adjusted
      else (significand count m : ℚ) * 10 ^ (-((k + 1 : ℕ) : ℤ)) := by
  have hcarry := digitCount_significand count m
  rw [← hlength] at hcarry
  rw [pointValue_below, hvalue]
  rcases hcarry with hzero | ⟨hlt, hcount⟩ | ⟨hpow, hcount⟩
  · have hkept : significand count m ≠ 10 ^ count := by
      rw [hzero]
      exact (Nat.pow_pos (by decide)).ne
    rw [if_neg fun h => hkept h.2, hzero]
    simp
  · have hzeros : (-(m.adjusted + 1)).toNat + digits.length = k + 1 := by omega
    rw [if_neg fun h => hlt.ne h.2, hzeros]
  · have hzeros : -(((-(m.adjusted + 1)).toNat + digits.length : ℕ) : ℤ)
        = m.adjusted + -(count : ℤ) := by omega
    rw [if_pos ⟨by omega, hpow⟩, hpow, hzeros, ten_zpow_add, zpow_neg, zpow_natCast]
    push_cast
    field_simp

/-- Some digits of a significand stand before the point: a carry is one of them. -/
theorem pointValue_significand_above (habove : k + 1 < digits.length) :
    pointValue (digits.take (digits.length - (k + 1)))
        (List.replicate (-(m.adjusted + 1)).toNat '0' ++ digits.drop (digits.length - (k + 1))) =
      if m.adjusted < -1 ∧ significand count m = 10 ^ count then 10 ^ m.adjusted
      else (significand count m : ℚ) * 10 ^ (-((k + 1 : ℕ) : ℤ)) := by
  have hcarry := digitCount_significand count m
  rw [← hlength] at hcarry
  have hfirst : -1 ≤ m.adjusted := by
    rcases hcarry with hzero | ⟨-, hcount⟩ | ⟨-, hcount⟩
    · rw [hzero] at hlength
      have hone : digitCount 0 = 1 := rfl
      omega
    · omega
    · omega
  have hzeros : (-(m.adjusted + 1)).toNat = 0 := by omega
  have hcut : digits.length - (digits.length - (k + 1)) = k + 1 := by omega
  rw [hzeros, List.replicate_zero, List.nil_append, pointValue_cut, hvalue, hcut, if_neg (by omega)]

end Value

/-- The value of a significand: a carry below a tenth is shown one place too low. -/
theorem pointValue_significantDigits {range : DigitRange}
    (h : significantDigits? l range m = some (whole, fraction)) :
    whole ≠ [] ∧ (∀ c ∈ whole ++ fraction, c.isDigit = true) ∧
      pointValue whole fraction =
        if m.adjusted < -1 ∧ significand range.most m = 10 ^ range.most then 10 ^ m.adjusted
        else roundAt (m.adjusted + 1 - range.most) |m.toRat| := by
  obtain ⟨digits, hne, hdigits, hvalue, hlength, hcases⟩ := significantDigits?_cases h
  have hzero (n : Nat) : ∀ c ∈ List.replicate n '0', c.isDigit = true := by
    intro c hc
    rw [List.eq_of_mem_replicate hc]
    rfl
  rw [← significand_mul]
  rcases hcases with ⟨k, hk, rfl, rfl⟩ | ⟨k, n, demanded, hk, rfl, hdemanded, rfl, rfl⟩
  · refine ⟨by simp [hne], ?_, ?_⟩
    · intro c hc
      rw [List.append_nil] at hc
      exact (List.mem_append.1 hc).elim (hdigits c) (hzero k c)
    · rw [if_neg (by omega), hk, pointValue, List.append_nil, Text.readDigits_append_zeros, hvalue]
      simp
  · refine ⟨?_, ?_, ?_⟩
    · split
      · simp
      · next hpos => simp [hne, hpos]
    · intro c hc
      simp only [List.mem_append] at hc
      rcases hc with hc | (hc | hc) | hc
      · split at hc
        · exact hzero 1 c hc
        · exact hdigits c (List.mem_of_mem_take hc)
      · exact hzero _ c hc
      · exact hdigits c (List.mem_of_mem_take (List.mem_of_mem_drop hc))
      · exact hdigits c (List.mem_of_mem_drop (mem_of_mem_trimZeros hc))
    · rw [pointValue_demanded hdemanded (Nat.sub_le _ _), hk]
      by_cases hbelow : digits.length ≤ k + 1
      · rw [Nat.sub_eq_zero_of_le hbelow, if_pos rfl, List.drop_zero]
        exact pointValue_significand_below hvalue hlength hk hbelow
      · rw [if_neg (by omega)]
        exact pointValue_significand_above hvalue hlength hk (by omega)

theorem shows_significantChars (h : p.significantChars l s m = .ok number) : ∃ whole fraction,
    Shows p 0 s number
      (if m.adjusted < -1 ∧ significand p.whole.most m = 10 ^ p.whole.most then 10 ^ m.adjusted
        else roundAt (m.adjusted + 1 - p.whole.most) |m.toRat|) whole fraction := by
  unfold significantChars at h
  cases hparts : significantDigits? l p.whole m with
  | none =>
    rw [hparts] at h
    cases h
  | some parts =>
    rw [hparts] at h
    rcases pointValue_significantDigits hparts with ⟨hne, hdigits, hvalue⟩
    exact ⟨parts.1, parts.2, (Except.ok.inj h).symm, hne, hdigits, hvalue⟩

/-! ## The value that is shown -/

/-- The place of the last digit that a pattern shows of a magnitude. -/
def lastShown (p : NumberPattern) (x : ℚ) : ℤ :=
  match p.exponent with
  | some _ => Int.log 10 x - p.lead - p.fraction.most
  | none => if p.isSignificant then Int.log 10 x + 1 - p.whole.most else -p.fraction.most

/-- Whether the significant digits of a magnitude below a tenth are rounded up to a power of ten. -/
def LosesPlace (p : NumberPattern) (x : ℚ) : Prop :=
  p.exponent.isNone = true ∧ p.isSignificant = true ∧ 0 < x ∧ x < 1 / 10 ∧
    roundAt (p.lastShown x) x = 10 ^ (Int.log 10 x + 1)

instance (p : NumberPattern) (x : ℚ) : Decidable (p.LosesPlace x) :=
  inferInstanceAs (Decidable (_ ∧ _ ∧ _ ∧ _ ∧ _))

/-- The value that a pattern shows of a magnitude. -/
def shown (p : NumberPattern) (x : ℚ) : ℚ :=
  if p.exponent.isSome ∧ p.fraction = ⟨0, 0⟩ then x
  else if p.LosesPlace x then 10 ^ Int.log 10 x
  else roundAt (p.lastShown x) x

theorem shown_zero (p : NumberPattern) : p.shown 0 = 0 := by
  have hkept : ¬p.LosesPlace 0 := fun h => lt_irrefl _ h.2.2.1
  rw [shown, if_neg hkept, roundAt_zero, ite_self]

theorem shown_of_fixed (hexponent : p.exponent = none) (hsignificant : p.isSignificant = false) (x : ℚ) :
    p.shown x = roundAt (-p.fraction.most) x := by
  have hkept : ¬p.LosesPlace x := by
    rintro ⟨-, hfalse, -⟩
    rw [hsignificant] at hfalse
    cases hfalse
  rw [shown, if_neg (by simp [hexponent]), if_neg hkept, lastShown, hexponent, hsignificant]
  rfl

theorem shown_of_exponent {form : ExponentForm} (hexponent : p.exponent = some form) (x : ℚ) :
    p.shown x = if p.fraction = ⟨0, 0⟩ then x
      else roundAt (Int.log 10 x - p.lead - p.fraction.most) x := by
  have hkept : ¬p.LosesPlace x := by
    rintro ⟨hfalse, -⟩
    rw [hexponent] at hfalse
    cases hfalse
  rw [shown, if_neg hkept, lastShown, hexponent]
  simp

/-- Significant digits are shown rounded at the last of them, or one place too low. -/
theorem shown_of_significant (hexponent : p.exponent = none) (hsignificant : p.isSignificant = true)
    (m : Decimal) :
    p.shown |m.toRat| =
      if m.adjusted < -1 ∧ significand p.whole.most m = 10 ^ p.whole.most then 10 ^ m.adjusted
      else roundAt (m.adjusted + 1 - p.whole.most) |m.toRat| := by
  have hmul := significand_mul p.whole.most m
  cases hm : m.isZero with
  | true =>
    have hnone : significand p.whole.most m = 0 := by
      rw [Decimal.toRat_of_isZero hm, abs_zero, roundAt_zero, mul_eq_zero,
        or_iff_left (ten_zpow_pos _).ne'] at hmul
      exact_mod_cast hmul
    have hpow : ¬significand p.whole.most m = 10 ^ p.whole.most := by
      rw [hnone]
      exact (Nat.pow_pos (by decide)).ne
    rw [if_neg fun h => hpow h.2, Decimal.toRat_of_isZero hm, abs_zero, shown_zero, roundAt_zero]
  | false =>
    have hlog := Decimal.log_abs_toRat hm
    have hplace : p.lastShown |m.toRat| = m.adjusted + 1 - p.whole.most := by
      rw [lastShown, hexponent, hsignificant, hlog]
      rfl
    have hsmall : |m.toRat| < 1 / 10 ↔ m.adjusted < -1 := by
      rw [← Decimal.abs_toRat_lt_iff hm]
      norm_num
    have hcarry : roundAt (m.adjusted + 1 - p.whole.most) |m.toRat| = 10 ^ (m.adjusted + 1) ↔
        significand p.whole.most m = 10 ^ p.whole.most := by
      have hsplit : (10 : ℚ) ^ (m.adjusted + 1)
          = (10 ^ p.whole.most : ℕ) * 10 ^ (m.adjusted + 1 - p.whole.most) := by
        rw [Nat.cast_pow, Nat.cast_ofNat, ← zpow_natCast, ← ten_zpow_add]
        congr 1
        ring
      rw [← hmul, hsplit, mul_left_inj' (ten_zpow_pos _).ne', Nat.cast_inj]
    have hloses : p.LosesPlace |m.toRat| ↔
        m.adjusted < -1 ∧ significand p.whole.most m = 10 ^ p.whole.most := by
      have hpos : 0 < |m.toRat| := abs_pos.2 (Decimal.toRat_ne_zero hm)
      rw [LosesPlace, hplace, hlog, hsmall, hcarry]
      simp [hexponent, hsignificant, hpos]
    simp only [shown, hexponent, hloses, hplace, hlog]
    simp

/-! ## Number parts -/

/-- The number part of a magnitude in a pattern. -/
def numberPart (p : NumberPattern) (l : Limits) (s : NumberSymbols) (m : Decimal) :
    Except FormatFault (List Char) :=
  match p.exponent with
  | some form => p.scientificChars l s form m
  | none => if p.isSignificant then p.significantChars l s m else p.fixedChars l s p.fraction m

/-- Before an exponent a number is shown to the places of the pattern. -/
theorem shown_leadingAt {form : ExponentForm} (hexponent : p.exponent = some form) (m : Decimal) :
    roundAt (-(p.mantissaPlaces (m.leadingAt p.lead)).most) |(m.leadingAt p.lead).toRat| *
      10 ^ (m.adjusted - p.lead) = p.shown |m.toRat| := by
  have hmoved : |(m.leadingAt p.lead).toRat| * 10 ^ (m.adjusted - p.lead) = |m.toRat| := by
    have hleading := congrArg abs (Decimal.toRat_leadingAt p.lead m)
    rwa [abs_mul, abs_of_pos (ten_zpow_pos _)] at hleading
  rw [shown_of_exponent hexponent]
  by_cases hnone : p.fraction = ⟨0, 0⟩
  · -- All digits are shown.
    have hexact := Decimal.roundAt_of_le_exponent
      (d := (m.leadingAt p.lead).normalize) (e := -(naturalPlaces (m.leadingAt p.lead))) (by
        simp only [naturalPlaces]
        omega)
    rw [Decimal.toRat_normalize] at hexact
    rw [if_pos hnone, mantissaPlaces, if_pos hnone, ← abs_roundAt, hexact, hmoved]
  · rw [if_neg hnone, mantissaPlaces, if_neg hnone, ← roundAt_mul_ten_zpow, hmoved]
    cases hm : m.isZero with
    | true => rw [Decimal.toRat_of_isZero hm, abs_zero, roundAt_zero, roundAt_zero]
    | false =>
      rw [Decimal.log_abs_toRat hm]
      congr 1
      ring

/-- A number part denotes the value that the pattern shows. -/
theorem denoted?_numberPart (hs : s.Distinct) (hm : Marked s) (h : p.numberPart l s m = .ok number) :
    denoted? s number = some (p.shown |m.toRat|) := by
  unfold numberPart at h
  cases hexponent : p.exponent with
  | some form =>
    rw [hexponent] at h
    rw [denoted?_scientificChars hs hm h, shown_leadingAt hexponent]
  | none =>
    rw [hexponent] at h
    dsimp only at h
    cases hsignificant : p.isSignificant with
    | true =>
      rw [hsignificant, if_pos rfl] at h
      obtain ⟨whole, fraction, hshows⟩ := shows_significantChars h
      rw [hshows.denoted? hs hm, shown_of_significant hexponent hsignificant]
    | false =>
      rw [hsignificant, if_neg Bool.false_ne_true] at h
      obtain ⟨whole, fraction, hshows⟩ := shows_fixedChars h
      rw [hshows.denoted? hs hm, shown_of_fixed hexponent hsignificant]

end NumberPattern
end ReceiptTemplate
