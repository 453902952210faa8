import ReceiptTemplate.Proofs.Number.ProperText

/-!
# Improper text — separators that a locale does not write

A locale whose decimal pattern leaves the digits together writes no separators, so that a text with any is
refused.  The number that may have been meant is the one that is read with the separator for the point.
The first separator of a written number stands before its last whole digit, so that this number is smaller
than the written one and has room for its places where that has.
-/

namespace ReceiptTemplate

/-! ## More than one point -/

namespace Decimal

open Text (readDigits)
open NumberPattern (signChars)

variable {negative : Bool} {whole rest : List Char} {d : Decimal}

/-- A number whose digits go on with points has no exponent, and no more than one of the points is read. -/
theorem readExponent?_of_points (h : ∀ c ∈ rest, c.isDigit = true ∨ c = '.') {e : Int}
    (he : readExponent? (rest.dropWhile Char.isDigit) = some e) : e = 0 := by
  cases hleft : rest.dropWhile Char.isDigit with
  | nil =>
    rw [hleft] at he
    exact (Option.some.inj he).symm
  | cons c cs =>
    have hstop : c.isDigit = false := by
      have hhead := List.head?_dropWhile_not Char.isDigit rest
      rw [hleft] at hhead
      simpa using hhead
    have hmem : c ∈ rest := (List.dropWhile_suffix _).subset (hleft ▸ List.mem_cons_self)
    rcases h c hmem with hdigit | rfl
    · rw [hstop] at hdigit
      cases hdigit
    · rw [hleft] at he
      cases he

/-- What is read before further points is a number with the digits before the first one. -/
theorem abs_toRat_lt_of_readFinite? (hne : whole ≠ []) (hwhole : ∀ c ∈ whole, c.isDigit = true)
    (hrest : ∀ c ∈ rest, c.isDigit = true ∨ c = '.')
    (h : readFinite? negative (whole ++ '.' :: rest) = some d) : |d.toRat| < 10 ^ whole.length := by
  have hpoint : ∀ c ∈ ('.' :: rest).head?, c.isDigit = false := by simp
  have hsome : whole.isEmpty = false := by simpa using hne
  rcases Text.span_run hwhole hpoint with ⟨htake, hdrop⟩
  unfold readFinite? at h
  rw [htake, hdrop] at h
  simp only [hsome, Bool.false_and, Bool.false_eq_true, if_false] at h
  split at h
  · cases h
  · next e he =>
    have hlt : (readDigits (whole ++ rest.takeWhile Char.isDigit) : ℚ)
        < 10 ^ (whole.length + (rest.takeWhile Char.isDigit).length) := by
      rw [← List.length_append]
      exact_mod_cast Text.readDigits_lt (whole ++ rest.takeWhile Char.isDigit)
    cases h
    rw [abs_toRat, readExponent?_of_points hrest he, zero_sub, zpow_neg, zpow_natCast,
      ← div_eq_mul_inv, div_lt_iff₀ (by positivity), ← pow_add]
    exact hlt

theorem readSpecial?_ne_finite (negative : Bool) (cs : List Char) (d : Decimal) :
    readSpecial? negative cs ≠ some (.finite d) := by
  unfold readSpecial?
  dsimp only
  split
  · simp
  · split
    · split <;> simp
    · split
      · split <;> simp
      · simp

/-- A number with points among its digits is as small as the digits before the first point say. -/
theorem abs_toRat_lt_of_read? (hne : whole ≠ []) (hwhole : ∀ c ∈ whole, c.isDigit = true)
    (hrest : ∀ c ∈ rest, c.isDigit = true ∨ c = '.')
    (h : read? (String.ofList (signChars negative ++ (whole ++ '.' :: rest))) = some (.finite d)) :
    |d.toRat| < 10 ^ whole.length := by
  have hchars : ∀ c ∈ signChars negative ++ (whole ++ '.' :: rest),
      c.isDigit = true ∨ c = '-' ∨ c = '.' := by
    intro c hc
    rcases List.mem_append.1 hc with hsign | hc
    · exact .inr (.inl (NumberPattern.mem_signChars hsign))
    · rcases List.mem_append.1 hc with hc | hc
      · exact .inl (hwhole c hc)
      · rcases List.mem_cons.1 hc with rfl | hc
        · exact .inr (.inr rfl)
        · exact (hrest c hc).imp_right .inr
  have hsign : Text.splitSign (signChars negative ++ (whole ++ '.' :: rest))
      = (negative, whole ++ '.' :: rest) := by
    obtain ⟨c, cs, rfl⟩ := List.exists_cons_of_ne_nil hne
    exact splitSign_signChars negative (hwhole c List.mem_cons_self) _
  rw [read?_ofList hchars, hsign] at h
  split at h
  · next x hx =>
    split at h
    · cases h
      exact abs_toRat_lt_of_readFinite? hne hwhole hrest hx
    · cases h
  · exact absurd h (readSpecial?_ne_finite _ _ _)

end Decimal

/-! ## Point and separator exchanged -/

/-- The symbols with the group separator for the point and the point for the separator. -/
def NumberSymbols.swapped (s : NumberSymbols) : NumberSymbols :=
  { s with decimal := s.group, group := s.decimal }

theorem NumberSymbols.Distinct.swapped {s : NumberSymbols} (hs : s.Distinct) : s.swapped.Distinct :=
  ⟨hs.ne.symm, hs.group, hs.decimal⟩

namespace NumberPattern

open Decimal (Limits)

variable {p q : NumberPattern} {s : NumberSymbols} {d : Decimal}

/-- The first group of a number with separators is shorter than the number. -/
theorem wholeChars_of_long (hp : p.IsPlain) (hlong : p.groups.1 < (wholeDigits d).length) :
    ∃ first rest, p.wholeChars 1 s (wholeDigits d) = first ++ s.group :: rest ∧ first ≠ [] ∧
      first.length < (wholeDigits d).length ∧ (∀ c ∈ first, c.isDigit = true) := by
  have hne := wholeDigits_ne_nil d
  have hflatten := flatten_digitGroups p (wholeDigits d)
  have hgroups (group : List Char) (h : group ∈ p.digitGroups (wholeDigits d)) : group ≠ [] :=
    ne_nil_of_mem_digitGroups hp.groups hne h
  rw [wholeChars_eq p s hne]
  match hparts : p.digitGroups (wholeDigits d), two_le_length_digitGroups hp.groups hlong with
  | first :: next :: more, _ =>
    rw [hparts] at hflatten hgroups
    refine ⟨first, List.intercalate [s.group] (next :: more), ?_, hgroups first List.mem_cons_self, ?_, ?_⟩
    · rw [List.intercalate_cons_cons, List.append_assoc]
      rfl
    · have hnext := List.length_pos_iff.2 (hgroups next (by simp))
      rw [← hflatten]
      simp only [List.flatten_cons, List.length_append]
      omega
    · intro c hc
      apply isDigit_wholeDigits (d := d)
      rw [← hflatten, List.flatten_cons]
      exact List.mem_append_left _ hc

theorem mem_plainForm {cs : List Char} {c : Char} (h : c ∈ plainForm s cs) :
    c = '.' ∨ c ∈ cs ∧ c ≠ s.group := by
  obtain ⟨c', hc', rfl⟩ := List.mem_map.1 h
  have hmem := List.mem_filter.1 hc'
  split
  · exact .inl rfl
  · exact .inr ⟨hmem.1, by simpa using hmem.2⟩

theorem hasRoom_of_lt {k : Nat} (hk : k + q.fraction.most < 28)
    (h : |d.toRat| < 10 ^ k) : q.HasRoom d := by
  have hpower : (10 : ℚ) ^ k * 10 ≤ 10 ^ (28 - q.fraction.most) := by
    rw [← pow_succ]
    exact pow_le_pow_right₀ (by norm_num) (by omega)
  have hone : (1 : ℚ) ≤ 10 ^ k := one_le_pow₀ (by norm_num)
  have hunit : 1 / (2 * (10 : ℚ) ^ q.fraction.most) ≤ 1 := by
    have hplaces : (1 : ℚ) ≤ 10 ^ q.fraction.most := one_le_pow₀ (by norm_num)
    rw [div_le_one (by positivity)]
    linarith
  rw [HasRoom]
  linarith

section Suggestion

variable (hs : s.Distinct) (hp : p.IsPlain) (hq : q.IsDecimal)
  (hplaces : -(p.fraction.least : Int) ≤ d.exponent) (hlong : p.groups.1 < (wholeDigits d).length)

include hs hp hplaces hlong

/-- With the separator for the point a written number has digits and points after the first group. -/
theorem plainForm_swapped : ∃ first rest, plainForm s.swapped (p.writtenChars s d)
      = signChars d.negative ++ (first ++ '.' :: rest) ∧ first ≠ [] ∧
    first.length < (wholeDigits d).length ∧ (∀ c ∈ first, c.isDigit = true) ∧
    ∀ c ∈ rest, c.isDigit = true ∨ c = '.' := by
  obtain ⟨first, rest, hwhole, hne, hshort, hfirst⟩ := wholeChars_of_long (s := s) hp hlong
  let fraction := if p.fraction.least = 0 then [] else s.decimal :: filledFraction p.fraction.least d
  have hsign : plainForm s.swapped (signChars d.negative) = signChars d.negative := by
    apply plainForm_of_forall
    intro c hc
    rw [mem_signChars hc]
    exact ⟨hs.decimal.2.1.symm, hs.group.2.1.symm⟩
  have hpoint : plainForm s.swapped [s.group] = ['.'] := by
    simp [plainForm, NumberSymbols.swapped, hs.ne.symm]
  refine ⟨first, plainForm s.swapped (rest ++ fraction), ?_, hne, hshort, hfirst, ?_⟩
  · have hsplit : p.writtenChars s d
        = signChars d.negative ++ (first ++ ([s.group] ++ (rest ++ fraction))) := by
      rw [writtenChars_eq hplaces, hwhole, List.append_assoc]
      rfl
    rw [hsplit, plainForm_append, plainForm_append, plainForm_append, hsign, hpoint,
      plainForm_of_isDigit hs.swapped hfirst]
    rfl
  · intro c hc
    -- What is left of the separators and of the point has become points.
    rcases mem_plainForm hc with rfl | ⟨hmem, hdecimal⟩
    · exact .inr rfl
    by_cases hgroup : c = s.group
    · rcases List.mem_map.1 hc with ⟨c', -, hc'⟩
      by_cases hc'' : c' = s.swapped.decimal
      · rw [if_pos hc''] at hc'
        exact .inr hc'.symm
      · rw [if_neg hc''] at hc'
        exact absurd (hc'.trans hgroup) hc''
    · refine .inl ?_
      rcases List.mem_append.1 hmem with hrest | hfraction
      · have hwritten : c ∈ p.wholeChars 1 s (wholeDigits d) := by
          rw [hwhole]
          exact List.mem_append_right _ (List.mem_cons_of_mem _ hrest)
        exact (mem_wholeChars hs hp hwritten).resolve_right hgroup
      · have hcases : c ∈ s.decimal :: filledFraction p.fraction.least d := by
          simp only [fraction] at hfraction
          split at hfraction
          · cases hfraction
          · exact hfraction
        rcases List.mem_cons.1 hcases with rfl | hdigit
        · exact absurd rfl hdecimal
        · exact isDigit_filledFraction hdigit

include hq

/-- The suggestion for a number with separators has room for its places. -/
theorem improperFault_writtenChars (hd : d.isZero = false) (hroom : q.RoomFor d) :
    q.improperFault s (String.ofList (p.writtenChars s d)) = .malformed := by
  by_contra hbreak
  obtain ⟨x, hswapped, hlarge⟩ := (improperFault_ne_malformed_iff hq).1 hbreak
  obtain ⟨first, rest, hchars, hne, hshort, hfirst, hrest⟩ := plainForm_swapped hs hp hplaces hlong
  have hread : Decimal.read? (String.ofList (plainForm s.swapped (p.writtenChars s d)))
      = some (.finite x) := by
    rw [← hswapped, readSwapped?, String.toList_ofList]
    rfl
  rw [hchars] at hread
  have hlt := Decimal.abs_toRat_lt_of_read? hne hfirst hrest hread
  have hprecision : Limits.standard.precision = 28 := rfl
  have hlength := length_wholeDigits d
  have hadjusted := Decimal.adjusted_abs_normalize hd
  have hmost := hq.most
  rw [RoomFor] at hroom
  exact hlarge (hasRoom_of_lt (by omega) hlt)

end Suggestion

/-- A number with separators is refused where the digits are left together: as malformed if it has room for
the places of the decimal pattern, and else because that can not be checked. -/
theorem readStrict_separated (hs : s.Distinct) (hp : p.IsPlain) (hq : q.IsDecimal)
    (hgroups : Limits.standard.precision ≤ q.groups.1) (hplaces : -(p.fraction.least : Int) ≤ d.exponent)
    (hleast : p.fraction.least ≤ Text.maxIntegerDigits)
    (hcount : d.isZero = true ∨ d.adjusted + p.fraction.least + 1 ≤ Limits.standard.precision) :
    q.readStrict s (String.ofList (p.writtenChars s d)) =
      if d.isZero = true ∨ d.adjusted < p.groups.1 then .ok (.finite (d.lowerTo (-p.fraction.least)))
      else if q.RoomFor d then .error .malformed
      else .error (.unwritable .imprecise) := by
  have hprecision : Limits.standard.precision = 28 := rfl
  have hsingle := length_wholeDigits_le_iff (d := d) (Nat.pos_of_ne_zero hp.groups.first)
  rw [readStrict_written hs hp hplaces q (short_of_fits hleast hcount)]
  by_cases hlong : p.groups.1 < (wholeDigits d).length
  · obtain ⟨hd, hlarge⟩ := not_or.1 (mt hsingle.2 (Nat.not_le.2 hlong))
    have hne := Bool.eq_false_iff.2 hd
    have hfits := hcount.resolve_left hd
    -- The digits of the number itself are too few to be parted.
    have htogether : (wholeDigits d).length ≤ q.groups.1 := by
      rw [length_wholeDigits_le_iff (by omega)]
      exact .inr (by omega)
    have hproper := isProper_of_separators hs hp hq hplaces hne hleast hfits hlong htogether
    rw [if_pos hlong, hproper]
    simp only [or_iff_right hd, if_neg hlarge]
    by_cases hroom : q.RoomFor d
    · rw [if_pos hroom, if_pos hroom, ← improperFault_writtenChars hs hp hq hplaces hlong hne hroom]
      rfl
    · rw [if_neg hroom, if_neg hroom]
      rfl
  · rw [if_neg hlong, if_pos (hsingle.1 (Nat.le_of_not_lt hlong))]

end NumberPattern
end ReceiptTemplate
