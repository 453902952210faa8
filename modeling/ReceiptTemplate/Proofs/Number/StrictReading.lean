import ReceiptTemplate.Number.Strict
import ReceiptTemplate.Proofs.Number.PointText
import ReceiptTemplate.Proofs.Number.WrittenText

/-!
# Strict reading — numbers in fixed places read back

What a pattern of plain digits writes is read back digit for digit.  Without group separators nothing
else is asked.  With them the text has to be the one that the locale writes for the number, and that
text is made up with all the places of its decimal pattern: a number that leaves no room for them in the
standard precision can be written but not read.
-/

namespace ReceiptTemplate

theorem Locale.decimalPattern_cases (l : Locale) :
    l.decimalPattern = .grouped ∨ l.decimalPattern = .ungrouped := by
  rcases l.findData_cases NumberPattern.decimalTable .grouped with h | ⟨entry, hentry, h⟩
  · exact .inl h
  · rw [NumberPattern.decimalTable, List.mem_singleton] at hentry
    subst hentry
    exact .inr h

namespace NumberPattern

open Decimal (FitsAt Limits digitCount pointChars)
open Text (readDigits)

variable {p q : NumberPattern} {s : NumberSymbols} {d : Decimal}

/-! ## What is read -/

/-- A text without group separators and with the point of the standard notation. -/
def plainForm (s : NumberSymbols) (cs : List Char) : List Char :=
  (cs.filter (· != s.group)).map fun c => if c = s.decimal then '.' else c

theorem plainForm_append (s : NumberSymbols) (cs ds : List Char) :
    plainForm s (cs ++ ds) = plainForm s cs ++ plainForm s ds := by
  simp [plainForm]

theorem plainForm_of_forall {cs : List Char} (h : ∀ c ∈ cs, c ≠ s.group ∧ c ≠ s.decimal) :
    plainForm s cs = cs := by
  have hfilter : cs.filter (· != s.group) = cs :=
    Text.filter_bne_of_not_mem fun hmem => (h s.group hmem).1 rfl
  have hmap : (cs.map fun c => if c = s.decimal then '.' else c) = cs.map id := by
    apply List.map_congr_left
    intro c hc
    exact if_neg (h c hc).2
  rw [plainForm, hfilter, hmap, List.map_id]

theorem plainForm_of_isDigit (hs : s.Distinct) {cs : List Char} (h : ∀ c ∈ cs, c.isDigit = true) :
    plainForm s cs = cs := by
  apply plainForm_of_forall
  intro c hc
  exact ⟨Text.ne_of_isDigit (h c hc) hs.group.1, Text.ne_of_isDigit (h c hc) hs.decimal.1⟩

section Reading

variable (hs : s.Distinct) (hp : p.IsPlain) (hplaces : -(p.fraction.least : Int) ≤ d.exponent)

include hs hp hplaces

theorem plainForm_writtenChars :
    plainForm s (p.writtenChars s d) = signChars d.negative ++
      pointChars (wholeDigits d) (filledFraction p.fraction.least d) := by
  have hsign : plainForm s (signChars d.negative) = signChars d.negative := by
    apply plainForm_of_forall
    intro c hc
    rw [mem_signChars hc]
    exact ⟨hs.group.2.1.symm, hs.decimal.2.1.symm⟩
  have hwhole : plainForm s (p.wholeChars 1 s (wholeDigits d)) = wholeDigits d := by
    have hdigits := plainForm_of_isDigit hs fun _ hc => isDigit_wholeDigits (d := d) hc
    rw [plainForm, (separated_wholeDigits hs hp).filter]
    -- The digits have lost their separators, and there was no point among them.
    have hkept : (wholeDigits d).filter (· != s.group) = wholeDigits d :=
      Text.filter_bne_of_not_mem fun hmem =>
        Text.ne_of_isDigit (isDigit_wholeDigits hmem) hs.group.1 rfl
    rwa [plainForm, hkept] at hdigits
  have hfraction : plainForm s
      (if p.fraction.least = 0 then [] else s.decimal :: filledFraction p.fraction.least d)
      = if (filledFraction p.fraction.least d).isEmpty then []
        else '.' :: filledFraction p.fraction.least d := by
    have hlength := length_filledFraction hplaces
    by_cases hleast : p.fraction.least = 0
    · have hnil : (filledFraction p.fraction.least d).isEmpty = true := by
        rw [List.isEmpty_iff, ← List.length_eq_zero_iff, hlength, hleast]
      rw [if_pos hleast, if_pos hnil]
      rfl
    · have hsome : ¬(filledFraction p.fraction.least d).isEmpty = true := by
        rw [List.isEmpty_iff, ← List.length_eq_zero_iff, hlength]
        exact hleast
      have hpoint : plainForm s [s.decimal] = ['.'] := by
        simp [plainForm, hs.ne]
      have hdigits : plainForm s (filledFraction p.fraction.least d)
          = filledFraction p.fraction.least d :=
        plainForm_of_isDigit hs fun _ hc => isDigit_filledFraction hc
      have happend := plainForm_append s [s.decimal] (filledFraction p.fraction.least d)
      rw [if_neg hleast, if_neg hsome, ← List.singleton_append, happend, hpoint, hdigits]
      rfl
  rw [writtenChars_eq hplaces, plainForm_append, plainForm_append, hsign, hwhole, hfraction]
  rfl

/-- The digits of a number are read back as the number at the places of the pattern. -/
theorem read?_plainForm
    (hshort : max 1 (d.abs.normalize.adjusted + 1) + p.fraction.least ≤ Decimal.exponentLimit) :
    Decimal.read? (String.ofList (plainForm s (p.writtenChars s d)))
      = some (.finite (d.lowerTo (-p.fraction.least))) := by
  have hfraction := length_filledFraction hplaces
  have hdigits : ∀ c ∈ wholeDigits d ++ filledFraction p.fraction.least d, c.isDigit = true := by
    intro c hc
    rcases List.mem_append.1 hc with hc | hc
    · exact isDigit_wholeDigits hc
    · exact isDigit_filledFraction hc
  have hlength : ((wholeDigits d ++ filledFraction p.fraction.least d).length : Int)
      ≤ Decimal.exponentLimit := by
    have hwhole := length_wholeDigits d
    rw [List.length_append, hfraction]
    push_cast
    omega
  rw [plainForm_writtenChars hs hp hplaces,
    Decimal.read?_pointChars hdigits (wholeDigits_ne_nil d) hlength, readDigits_filled hplaces,
    hfraction]
  rfl

/-- The number is read as it was written, and with separators the text has to be the proper one. -/
theorem readStrict_written (q : NumberPattern)
    (hshort : max 1 (d.abs.normalize.adjusted + 1) + p.fraction.least ≤ Decimal.exponentLimit) :
    q.readStrict s (String.ofList (p.writtenChars s d)) =
      if p.groups.1 < (wholeDigits d).length then
        q.isProper s (String.ofList (p.writtenChars s d)) (.finite (d.lowerTo (-p.fraction.least))) >>=
          fun proper =>
            if proper then .ok (.finite (d.lowerTo (-p.fraction.least)))
            else .error (q.improperFault s (String.ofList (p.writtenChars s d)))
      else .ok (.finite (d.lowerTo (-p.fraction.least))) := by
  have hread := read?_plainForm hs hp hplaces hshort
  have hgroup : (p.writtenChars s d).contains s.group = true ↔ p.groups.1 < (wholeDigits d).length := by
    rw [List.contains_iff_mem]
    exact group_mem_writtenChars_iff hs hp
  unfold plainForm at hread
  unfold readStrict
  rw [String.toList_ofList]
  dsimp only
  rw [hread]
  by_cases hlong : p.groups.1 < (wholeDigits d).length
  · rw [if_pos hlong]
    dsimp only
    rw [if_pos (hgroup.2 hlong)]
    generalize q.isProper s _ _ = proper
    cases proper with
    | error fault => rfl
    | ok proper => cases proper <;> rfl
  · rw [if_neg hlong]
    dsimp only
    rw [if_neg (mt hgroup.1 hlong)]

end Reading

/-! ## The proper text -/

/-- In the standard precision a number has room for places up to the last of its digits. -/
theorem fitsAt_abs_normalize_iff (hd : d.isZero = false) (places : Nat) :
    FitsAt .standard places d.abs.normalize ↔ d.adjusted + places + 1 ≤ Limits.standard.precision := by
  have hprecision : Limits.standard.precision = 28 := rfl
  have hmax : Limits.standard.emax = 999999 := rfl
  have hne : d.abs.normalize.isZero = false := (Decimal.isZero_normalize d.abs).trans hd
  rw [FitsAt, hne, Decimal.adjusted_abs_normalize hd]
  simp only [Bool.false_eq_true, false_or]
  omega

/-- A pattern that writes any number: it demands no decimal places, and fewer of them are its own than the
standard precision has digits. -/
structure IsDecimal (q : NumberPattern) : Prop where
  plain : q.IsPlain
  least : q.fraction.least = 0
  most : q.fraction.most < Limits.standard.precision

theorem IsPlain.with_fraction (hp : p.IsPlain) (range : DigitRange) :
    ({ p with fraction := range } : NumberPattern).IsPlain :=
  ⟨hp.positive, hp.negative, hp.hasNumber, hp.isSignificant, hp.whole, hp.exponent,
    ⟨hp.groups.first, hp.groups.next⟩⟩

theorem wholeChars_congr {p q : NumberPattern} (h : p.groups = q.groups) (least : Nat)
    (s : NumberSymbols) (digits : List Char) :
    p.wholeChars least s digits = q.wholeChars least s digits := by
  unfold wholeChars
  rw [h]

/-- Lowering the exponent of a number does not show in what is written. -/
theorem writtenChars_lowerTo (p : NumberPattern) (s : NumberSymbols) {e : Int} (h : e ≤ d.exponent) :
    p.writtenChars s (d.lowerTo e) = p.writtenChars s d := by
  have hnormal : (d.lowerTo e).abs.normalize = d.abs.normalize := by
    rw [Decimal.normalize_abs, Decimal.normalize_abs, Decimal.normalize_lowerTo h]
  rw [writtenChars, writtenChars, hnormal]
  rfl

section Proper

variable (hs : s.Distinct) (hp : p.IsPlain) (hplaces : -(p.fraction.least : Int) ≤ d.exponent)

include hs hp hplaces

/-- What is written without the zeros at the end of its fraction is what a decimal pattern of the same
groups writes. -/
theorem dropFractionZeros_writtenChars (hgroups : p.groups = q.groups) (hnone : q.fraction.least = 0) :
    dropFractionZeros s (p.writtenChars s d) = q.writtenChars s d := by
  have hwhole : q.wholeChars 1 s (wholeDigits d) = p.wholeChars 1 s (wholeDigits d) :=
    wholeChars_congr hgroups.symm _ _ _
  have hproper : q.writtenChars s d = signChars d.negative ++
      (p.wholeChars 1 s (wholeDigits d) ++ fractionChars 0 s (splitPoint d.abs.normalize).2) := by
    rw [← hwhole, ← hnone]
    rfl
  -- No point stands before the fraction.
  have hrun : ∀ c ∈ signChars d.negative ++ p.wholeChars 1 s (wholeDigits d),
      (c != s.decimal) = true := by
    intro c hc
    simp only [bne_iff_ne, ne_eq]
    rintro rfl
    rcases List.mem_append.1 hc with hsign | hc
    · exact hs.decimal.2.1 (mem_signChars hsign)
    · rcases mem_wholeChars hs hp hc with hdigit | hgroup
      · exact Text.ne_of_isDigit hdigit hs.decimal.1 rfl
      · exact hs.ne hgroup
  have hfraction := length_filledFraction hplaces
  rw [hproper, writtenChars_eq hplaces, ← List.append_assoc, ← List.append_assoc, fractionChars_zero]
  by_cases hleast : p.fraction.least = 0
  · have hempty : (splitPoint d.abs.normalize).2 = [] := by
      have hle := length_fraction_le hplaces
      rw [← List.length_eq_zero_iff]
      omega
    rw [if_pos hleast, hempty, List.append_nil]
    unfold dropFractionZeros
    rw [List.dropWhile_eq_nil_iff.2 hrun]
    simp [trimZeros]
  · rw [if_neg hleast]
    have hpoint : ∀ c ∈ (s.decimal :: filledFraction p.fraction.least d).head?,
        (c != s.decimal) = false := by simp
    rcases Text.span_run hrun hpoint with ⟨htake, hdrop⟩
    have hsome : (filledFraction p.fraction.least d).isEmpty = false := by
      rw [Bool.eq_false_iff, Ne, List.isEmpty_iff, ← List.length_eq_zero_iff, hfraction]
      exact hleast
    have htrim : trimZeros (filledFraction p.fraction.least d)
        = trimZeros (splitPoint d.abs.normalize).2 :=
      trimZeros_append_zeros _ _
    unfold dropFractionZeros
    rw [htake, hdrop]
    simp only [List.drop_one, List.tail_cons, hsome, htrim, Bool.false_eq_true, if_false]

end Proper

/-- Whether the standard precision has room for the digits of a number and all places of a pattern. -/
def RoomFor (q : NumberPattern) (d : Decimal) : Prop :=
  d.adjusted + max q.fraction.most (naturalPlaces d) + 1 ≤ Limits.standard.precision

instance : Decidable (q.RoomFor d) :=
  inferInstanceAs (Decidable (_ ≤ _))

section Strict

variable (hs : s.Distinct) (hp : p.IsPlain) (hq : q.IsDecimal)
  (hplaces : -(p.fraction.least : Int) ≤ d.exponent) (hd : d.isZero = false)
  (hleast : p.fraction.least ≤ Text.maxIntegerDigits)
  (hcount : d.adjusted + p.fraction.least + 1 ≤ Limits.standard.precision)

include hs hq hplaces hd hleast hcount

/-- The proper text of a number is made up with all places of the decimal pattern, and with as many as
the number needs. -/
theorem properText_lowerTo :
    q.properText s (d.lowerTo (-p.fraction.least)) =
      if q.RoomFor d then .ok (String.ofList (q.writtenChars s d)) else .error .imprecise := by
  have hprecision : Limits.standard.precision = 28 := rfl
  have hmax : Limits.standard.emax = 999999 := rfl
  have hlow : Limits.standard.etiny = -1000026 := rfl
  have hdigits : Text.maxIntegerDigits = 4300 := rfl
  have hmost := hq.most
  have hzero : (d.lowerTo (-p.fraction.least)).isZero = false := by
    rw [Decimal.isZero_lowerTo, hd]
  have hadjusted := Decimal.adjusted_lowerTo hd hplaces
  have hnormal : (d.lowerTo (-p.fraction.least)).normalize = d.normalize :=
    Decimal.normalize_lowerTo hplaces
  have hmagnitude : (d.lowerTo (-p.fraction.least)).abs.normalize = d.normalize.abs := by
    rw [Decimal.normalize_abs, hnormal]
  have hnatural : naturalPlaces d ≤ p.fraction.least := by
    have hexponent := Decimal.le_exponent_normalize hplaces
    simp only [naturalPlaces]
    omega
  -- The number itself fits; what may not fit are the places of the pattern after its digits.
  have hfit : Decimal.fit? .standard (d.lowerTo (-p.fraction.least))
      = some (d.lowerTo (-p.fraction.least)) := by
    have hexponent : (d.lowerTo (-p.fraction.least)).exponent = -(p.fraction.least : Int) := rfl
    have hdefinition : (d.lowerTo (-p.fraction.least)).adjusted
        = (d.lowerTo (-p.fraction.least)).exponent +
          digitCount (d.lowerTo (-p.fraction.least)).coefficient - 1 := rfl
    exact Decimal.fit?_of_fits hzero (by omega) (by omega) (by omega)
  have hplain : (q.withPlaces (naturalPlaces d)).IsPlain := hq.plain.with_fraction _
  have hproper : q.properText s (d.lowerTo (-p.fraction.least))
      = (q.withPlaces (naturalPlaces d)).format .standard s (d.lowerTo (-p.fraction.least)) := by
    unfold properText naturalPlaces
    rw [hfit]
    dsimp only
    rw [hnormal]
  have hexact : -((q.withPlaces (naturalPlaces d)).fraction.most : Int)
      ≤ (d.lowerTo (-p.fraction.least)).abs.normalize.exponent := by
    rw [hmagnitude]
    show -((max q.fraction.most (naturalPlaces d) : Nat) : Int) ≤ d.normalize.exponent
    simp only [naturalPlaces]
    omega
  have hfits : FitsAt .standard (q.withPlaces (naturalPlaces d)).fraction.most
      (d.lowerTo (-p.fraction.least)).abs.normalize ↔ q.RoomFor d := by
    rw [hmagnitude, ← Decimal.normalize_abs]
    exact fitsAt_abs_normalize_iff hd _
  have hrange : (d.lowerTo (-p.fraction.least)).isZero = true ∨
      (d.lowerTo (-p.fraction.least)).adjusted ≤ Limits.standard.emax := .inr (by omega)
  rw [hproper]
  split
  · next hroom =>
    have hshort : IsShort (q.withPlaces (naturalPlaces d)).fraction := by
      intro _
      show max q.fraction.most (naturalPlaces d) ≤ _
      omega
    have hquote := quote_not_mem_writtenChars (d := d.lowerTo (-p.fraction.least)) hs hplain
    rw [format_eq_ok hplain hexact (by decide) hrange hshort (hfits.2 hroom) hquote,
      writtenChars_lowerTo _ _ hplaces]
    rfl
  · next hroom =>
    exact format_eq_imprecise hplain hexact (by decide) hrange (mt hfits.1 hroom)

include hp

/-- Text in the groups of the decimal pattern is proper. -/
theorem isProper_writtenChars (hgroups : p.groups = q.groups) :
    q.isProper s (String.ofList (p.writtenChars s d)) (.finite (d.lowerTo (-p.fraction.least))) =
      if q.RoomFor d then .ok true else .error (.unwritable .imprecise) := by
  have hproper := properText_lowerTo hs hq hplaces hd hleast hcount
  have hdrop := dropFractionZeros_writtenChars (d := d) hs hp hplaces hgroups hq.least
  unfold isProper
  dsimp only
  by_cases hroom : q.RoomFor d
  · rw [if_pos hroom] at hproper ⊢
    rw [hproper]
    dsimp only
    rw [String.toList_ofList, hdrop, beq_self_eq_true, Bool.or_true]
  · rw [if_neg hroom] at hproper ⊢
    rw [hproper]

/-- Text with separators is not proper where the decimal pattern leaves the digits together. -/
theorem isProper_of_separators (hlong : p.groups.1 < (wholeDigits d).length)
    (hshort : (wholeDigits d).length ≤ q.groups.1) :
    q.isProper s (String.ofList (p.writtenChars s d)) (.finite (d.lowerTo (-p.fraction.least))) =
      if q.RoomFor d then .ok false else .error (.unwritable .imprecise) := by
  have hproper := properText_lowerTo hs hq hplaces hd hleast hcount
  -- The separators outlast the zeros that are dropped, and the proper text has none of them.
  let bare : NumberPattern := { p with fraction := ⟨0, 0⟩ }
  have hbare : bare.IsPlain := hp.with_fraction _
  have hdrop : dropFractionZeros s (p.writtenChars s d) = bare.writtenChars s d :=
    dropFractionZeros_writtenChars hs hp hplaces rfl rfl
  have hnone : s.group ∉ q.writtenChars s d := by
    rw [group_mem_writtenChars_iff hs hq.plain]
    omega
  have hne {cs : List Char} (hgroup : s.group ∈ cs) :
      (String.ofList cs == String.ofList (q.writtenChars s d)) = false := by
    rw [beq_eq_false_iff_ne, Ne, String.ofList_inj]
    rintro rfl
    exact hnone hgroup
  unfold isProper
  dsimp only
  by_cases hroom : q.RoomFor d
  · rw [if_pos hroom] at hproper ⊢
    rw [hproper]
    dsimp only
    rw [String.toList_ofList, hdrop, hne ((group_mem_writtenChars_iff hs hp).2 hlong),
      hne ((group_mem_writtenChars_iff hs hbare).2 hlong), Bool.or_false]
  · rw [if_neg hroom] at hproper ⊢
    rw [hproper]

end Strict

/-- A number that fits the standard precision is far from the longest text. -/
theorem short_of_fits {places : Nat} (hleast : places ≤ Text.maxIntegerDigits)
    (hcount : d.isZero = true ∨ d.adjusted + places + 1 ≤ Limits.standard.precision) :
    max 1 (d.abs.normalize.adjusted + 1) + places ≤ Decimal.exponentLimit := by
  have hprecision : Limits.standard.precision = 28 := rfl
  have hlimit : Decimal.exponentLimit = 999999999999999999 := rfl
  have hdigits : Text.maxIntegerDigits = 4300 := rfl
  have hadjusted : d.abs.normalize.adjusted < 28 := by
    rw [Decimal.adjusted_abs_normalize_lt_iff (by decide)]
    apply hcount.imp_right
    omega
  omega

/-- Grouped text is read back in its own groups, unless it has separators and leaves no room for the
places of the decimal pattern. -/
theorem readStrict_grouped (hs : s.Distinct) (hp : p.IsPlain) (hq : q.IsDecimal)
    (hgroups : p.groups = q.groups) (hplaces : -(p.fraction.least : Int) ≤ d.exponent)
    (hleast : p.fraction.least ≤ Text.maxIntegerDigits)
    (hcount : d.isZero = true ∨ d.adjusted + p.fraction.least + 1 ≤ Limits.standard.precision) :
    q.readStrict s (String.ofList (p.writtenChars s d)) =
      if d.isZero = true ∨ d.adjusted < p.groups.1 ∨ q.RoomFor d then
        .ok (.finite (d.lowerTo (-p.fraction.least)))
      else .error (.unwritable .imprecise) := by
  have hsingle := length_wholeDigits_le_iff (d := d) (Nat.pos_of_ne_zero hp.groups.first)
  rw [readStrict_written hs hp hplaces q (short_of_fits hleast hcount)]
  -- Only a text of more than one group is compared with the proper one.
  by_cases hlong : p.groups.1 < (wholeDigits d).length
  · obtain ⟨hd, hlarge⟩ := not_or.1 (mt hsingle.2 (Nat.not_le.2 hlong))
    have hproper := isProper_writtenChars hs hp hq hplaces (Bool.eq_false_iff.2 hd) hleast
      (hcount.resolve_left hd) hgroups
    rw [if_pos hlong, hproper]
    simp only [or_iff_right hd, or_iff_right hlarge]
    by_cases hroom : q.RoomFor d
    · rw [if_pos hroom, if_pos hroom]
      rfl
    · rw [if_neg hroom, if_neg hroom]
      rfl
  · have hsmall := hsingle.1 (Nat.le_of_not_lt hlong)
    rw [if_neg hlong, if_pos (hsmall.imp_right .inl)]

/-- Text without groups is read back. -/
theorem readStrict_ungrouped (q : NumberPattern) (hs : s.Distinct) (hp : p.IsPlain)
    (hplaces : -(p.fraction.least : Int) ≤ d.exponent)
    (hshort : max 1 (d.abs.normalize.adjusted + 1) + p.fraction.least ≤ Decimal.exponentLimit)
    (hgroups : max 1 (d.abs.normalize.adjusted + 1) ≤ p.groups.1) :
    q.readStrict s (String.ofList (p.writtenChars s d))
      = .ok (.finite (d.lowerTo (-p.fraction.least))) := by
  have hlength := length_wholeDigits d
  rw [readStrict_written hs hp hplaces q hshort, if_neg]
  omega

end NumberPattern

theorem Locale.isDecimal_decimalPattern (l : Locale) : l.decimalPattern.IsDecimal := by
  rcases l.decimalPattern_cases with h | h
  · rw [h]
    exact ⟨⟨rfl, rfl, rfl, rfl, rfl, rfl, ⟨by decide, by decide⟩⟩, rfl, by decide⟩
  · rw [h]
    exact ⟨⟨rfl, rfl, rfl, rfl, rfl, rfl, ⟨by decide, by decide⟩⟩, rfl, by decide⟩

end ReceiptTemplate
