import ReceiptTemplate.Proofs.Number.FixedText

/-!
# Written text — the characters of a number in fixed places

A pattern of plain digits writes a sign, whole digits with their separators and a fraction that is filled up
with zeros.  The symbols of every locale can be told apart in that text, so that its parts are found again.
-/

namespace ReceiptTemplate

/-! ## Symbols -/

/-- The point and the group separator are told apart from each other and from what else there is in a
number. -/
structure NumberSymbols.Distinct (s : NumberSymbols) : Prop where
  ne : s.decimal ≠ s.group
  decimal : s.decimal.isDigit = false ∧ s.decimal ≠ '-' ∧ s.decimal ≠ '\''
  group : s.group.isDigit = false ∧ s.group ≠ '-' ∧ s.group ≠ '\''

theorem Locale.findData_cases {α : Type} (l : Locale) (table : Entries α) (otherwise : α) :
    l.findData table otherwise = otherwise ∨ ∃ entry ∈ table, l.findData table otherwise = entry.2 := by
  unfold findData
  cases hfind : l.lineage.findSome? table.get? with
  | none => exact .inl rfl
  | some data =>
    rcases List.exists_of_findSome?_eq_some hfind with ⟨key, -, hget⟩
    exact .inr ⟨(key, data), Entries.mem_of_get? hget, rfl⟩

theorem Locale.distinct_symbols (l : Locale) : l.symbols.Distinct := by
  have hstandard : NumberSymbols.standard.Distinct := ⟨by decide, by decide, by decide⟩
  have htable : ∀ entry ∈ NumberSymbols.table,
      entry.2.decimal ≠ entry.2.group ∧
        (entry.2.decimal.isDigit = false ∧ entry.2.decimal ≠ '-' ∧ entry.2.decimal ≠ '\'') ∧
        (entry.2.group.isDigit = false ∧ entry.2.group ≠ '-' ∧ entry.2.group ≠ '\'') := by
    decide
  rcases l.findData_cases NumberSymbols.table NumberSymbols.standard with h | ⟨entry, hentry, h⟩
  · rw [symbols, h]
    exact hstandard
  · rcases htable entry hentry with ⟨hne, hdecimal, hgroup⟩
    rw [symbols, h]
    exact ⟨hne, hdecimal, hgroup⟩

/-! ## Normal forms -/

namespace Decimal

theorem normalize_abs (d : Decimal) : d.abs.normalize = d.normalize.abs := by
  have hzero : d.abs.isZero = d.isZero := rfl
  unfold normalize
  rw [hzero]
  split <;> rfl

theorem isZero_normalize (d : Decimal) : d.normalize.isZero = d.isZero := by
  cases hd : d.isZero with
  | true =>
    rw [normalize_of_isZero hd]
    rfl
  | false =>
    rw [isZero_eq_false_iff]
    intro hzero
    exact (normalize_spec hd).1 (by rw [hzero])

theorem adjusted_abs_normalize {d : Decimal} (h : d.isZero = false) :
    d.abs.normalize.adjusted = d.adjusted := by
  have habs : d.abs.isZero = false := h
  exact (normalize_spec habs).2.1

theorem adjusted_normalize_of_isZero {d : Decimal} (h : d.isZero = true) : d.normalize.adjusted = 0 := by
  have hone : digitCount 0 = 1 := rfl
  rw [normalize_of_isZero h, adjusted, hone]
  rfl

theorem adjusted_abs_normalize_lt_iff {d : Decimal} {k : Int} (hk : 0 < k) :
    d.abs.normalize.adjusted < k ↔ d.isZero = true ∨ d.adjusted < k := by
  cases hd : d.isZero with
  | true =>
    have hadjusted : d.abs.normalize.adjusted = 0 := adjusted_normalize_of_isZero hd
    rw [hadjusted]
    exact iff_of_true hk (.inl rfl)
  | false =>
    rw [adjusted_abs_normalize hd]
    simp

/-- Without its trailing zeros a number needs no more places than before. -/
theorem le_exponent_normalize {d : Decimal} {places : Nat} (h : -(places : Int) ≤ d.exponent) :
    -(places : Int) ≤ d.normalize.exponent := by
  cases hd : d.isZero with
  | true =>
    rw [normalize_of_isZero hd]
    show -(places : Int) ≤ 0
    omega
  | false => exact Int.le_trans h (normalize_spec hd).2.2

theorem adjusted_lowerTo {d : Decimal} {e : Int} (hd : d.isZero = false) (h : e ≤ d.exponent) :
    (d.lowerTo e).adjusted = d.adjusted := by
  have hcount : digitCount (d.coefficientAt e) = digitCount d.coefficient + (d.exponent - e).toNat :=
    digitCount_mul_pow (isZero_eq_false_iff.1 hd) _
  simp only [adjusted, lowerTo, hcount]
  omega

theorem isZero_lowerTo (d : Decimal) (e : Int) : (d.lowerTo e).isZero = d.isZero := by
  have hpow : Nat.pow 10 (d.exponent - e).toNat ≠ 0 := (Nat.pow_pos (by decide)).ne'
  have hiff : d.coefficientAt e = 0 ↔ d.coefficient = 0 := by
    rw [coefficientAt, Nat.mul_eq_zero, or_iff_left hpow]
  rw [Bool.eq_iff_iff, isZero_iff, isZero_iff]
  exact hiff

end Decimal

namespace NumberPattern

open Decimal (FitsAt Limits digitCount)
open Text (readDigits)

variable {p q : NumberPattern} {s : NumberSymbols} {d : Decimal}

/-! ## What is written -/

/-- The whole digits that are written of a number. -/
def wholeDigits (d : Decimal) : List Char :=
  (splitPoint d.abs.normalize).1

/-- The digits after the point, filled up with zeros. -/
def filledFraction (places : Nat) (d : Decimal) : List Char :=
  let digits := (splitPoint d.abs.normalize).2
  digits ++ List.replicate (places - digits.length) '0'

theorem splits_normalize (d : Decimal) :
    Splits d.abs.normalize (wholeDigits d) (splitPoint d.abs.normalize).2 := by
  apply splits
  intro hzero
  rw [Decimal.isZero_normalize] at hzero
  rw [Decimal.normalize_of_isZero hzero]

theorem length_wholeDigits (d : Decimal) :
    ((wholeDigits d).length : Int) = max 1 (d.abs.normalize.adjusted + 1) :=
  (splits_normalize d).length_whole

/-- A number has as many whole digits as its magnitude has before the point. -/
theorem length_wholeDigits_le_iff {k : Nat} (hk : 0 < k) :
    (wholeDigits d).length ≤ k ↔ d.isZero = true ∨ d.adjusted < k := by
  have hlength := length_wholeDigits d
  rw [← Decimal.adjusted_abs_normalize_lt_iff (by omega)]
  omega

theorem wholeDigits_ne_nil (d : Decimal) : wholeDigits d ≠ [] := by
  have hlength := length_wholeDigits d
  rw [← List.length_pos_iff]
  omega

theorem isDigit_wholeDigits {c : Char} (h : c ∈ wholeDigits d) : c.isDigit = true :=
  (splits_normalize d).digits c (List.mem_append_left _ h)

theorem isDigit_filledFraction {places : Nat} {c : Char} (h : c ∈ filledFraction places d) :
    c.isDigit = true := by
  rcases List.mem_append.1 h with hc | hc
  · exact (splits_normalize d).digits c (List.mem_append_right _ hc)
  · rw [List.eq_of_mem_replicate hc]
    rfl

section Places

variable {places : Nat} (hplaces : -(places : Int) ≤ d.exponent)

include hplaces

theorem length_fraction_le : (splitPoint d.abs.normalize).2.length ≤ places := by
  have hlength := (splits_normalize d).length_fraction
  have hexponent : -(places : Int) ≤ d.abs.normalize.exponent := Decimal.le_exponent_normalize hplaces
  omega

theorem length_filledFraction : (filledFraction places d).length = places := by
  have hle := length_fraction_le hplaces
  simp only [filledFraction, List.length_append, List.length_replicate]
  omega

/-- The digits spell the coefficient of the number at its places. -/
theorem readDigits_filled :
    readDigits (wholeDigits d ++ filledFraction places d) = d.coefficientAt (-places) := by
  have hexponent : -(places : Int) ≤ d.abs.normalize.exponent := Decimal.le_exponent_normalize hplaces
  have hlength := (splits_normalize d).length_fraction
  have hplacesAbs : -(places : Int) ≤ d.abs.exponent := hplaces
  -- The zeros that the point needs and those that fill the places up are the zeros down to the exponent.
  have hsum : (d.abs.normalize.exponent - min d.abs.normalize.exponent 0).toNat +
      (places - (splitPoint d.abs.normalize).2.length)
        = (d.abs.normalize.exponent - -(places : Int)).toNat := by
    omega
  calc readDigits (wholeDigits d ++ filledFraction places d)
      = readDigits (wholeDigits d ++ (splitPoint d.abs.normalize).2) *
          10 ^ (places - (splitPoint d.abs.normalize).2.length) := by
        rw [filledFraction, ← List.append_assoc, Text.readDigits_append_zeros]
    _ = d.abs.normalize.coefficient *
          10 ^ (d.abs.normalize.exponent - min d.abs.normalize.exponent 0).toNat *
          10 ^ (places - (splitPoint d.abs.normalize).2.length) := by
        rw [(splits_normalize d).value]
        rfl
    _ = d.abs.normalize.coefficientAt (-places) := by
        rw [Nat.mul_assoc, ← Nat.pow_add, hsum]
        rfl
    _ = d.coefficientAt (-places) := Decimal.coefficientAt_normalize hplacesAbs

end Places

section Written

variable (hs : s.Distinct) (hp : p.IsPlain) (hplaces : -(p.fraction.least : Int) ≤ d.exponent)

include hplaces in
theorem writtenChars_eq : p.writtenChars s d = signChars d.negative ++
    (p.wholeChars 1 s (wholeDigits d) ++
      if p.fraction.least = 0 then [] else s.decimal :: filledFraction p.fraction.least d) := by
  rw [writtenChars, fractionChars_of_le s (length_fraction_le hplaces)]
  rfl

include hs hp in
theorem separated_wholeDigits :
    Separated p s (wholeDigits d) (p.wholeChars 1 s (wholeDigits d)) :=
  separated_wholeChars hp.groups hs.group.1 (wholeDigits_ne_nil d) fun _ hc => isDigit_wholeDigits hc

include hs hp in
theorem mem_wholeChars {c : Char} (h : c ∈ p.wholeChars 1 s (wholeDigits d)) :
    c.isDigit = true ∨ c = s.group := by
  by_cases hc : c = s.group
  · exact .inr hc
  · have hkept : c ∈ (p.wholeChars 1 s (wholeDigits d)).filter (· != s.group) :=
      List.mem_filter.2 ⟨h, by simpa using hc⟩
    rw [(separated_wholeDigits hs hp).filter] at hkept
    exact .inl (isDigit_wholeDigits hkept)

theorem mem_signChars {negative : Bool} {c : Char} (h : c ∈ signChars negative) : c = '-' := by
  cases negative with
  | true => exact List.mem_singleton.1 h
  | false => cases h

theorem mem_writtenChars {c : Char} (h : c ∈ p.writtenChars s d) :
    c = '-' ∨ c ∈ p.wholeChars 1 s (wholeDigits d) ∨ c = s.decimal ∨ c.isDigit = true := by
  rcases List.mem_append.1 h with hsign | h
  · exact .inl (mem_signChars hsign)
  · rcases List.mem_append.1 h with hwhole | hfraction
    · exact .inr (.inl hwhole)
    · rcases mem_fractionChars hfraction with hdecimal | hdigit | rfl
      · exact .inr (.inr (.inl hdecimal))
      · exact .inr (.inr (.inr ((splits_normalize d).digits c (List.mem_append_right _ hdigit))))
      · exact .inr (.inr (.inr rfl))

include hs hp in
theorem quote_not_mem_writtenChars : '\'' ∉ p.writtenChars s d := by
  intro h
  rcases mem_writtenChars h with hminus | hwhole | hdecimal | hdigit
  · cases hminus
  · rcases mem_wholeChars hs hp hwhole with hdigit | hgroup
    · cases hdigit
    · exact hs.group.2.2 hgroup.symm
  · exact hs.decimal.2.2 hdecimal.symm
  · cases hdigit

include hs hp in
/-- Separators are written exactly where there are more whole digits than in one group. -/
theorem group_mem_writtenChars_iff :
    s.group ∈ p.writtenChars s d ↔ p.groups.1 < (wholeDigits d).length := by
  have hseparated := separated_wholeDigits (d := d) hs hp
  have hgroup := hs.group
  constructor
  · intro h
    by_contra hshort
    rcases mem_writtenChars h with hminus | hwhole | hdecimal | hdigit
    · exact hgroup.2.1 hminus
    · rw [hseparated.short (Nat.le_of_not_lt hshort)] at hwhole
      exact Text.ne_of_isDigit (isDigit_wholeDigits hwhole) hgroup.1 rfl
    · exact hs.ne hdecimal.symm
    · exact Text.ne_of_isDigit hdigit hgroup.1 rfl
  · intro h
    exact List.mem_append_right _ (List.mem_append_left _ (hseparated.long h))

include hs hp hplaces in
/-- A written number starts with a sign or a digit and ends with a digit. -/
theorem ends_writtenChars :
    (∀ c ∈ (p.writtenChars s d).head?, c = '-' ∨ c.isDigit = true) ∧
      ∀ c ∈ (p.writtenChars s d).getLast?, c.isDigit = true := by
  have hseparated := separated_wholeDigits (d := d) hs hp
  constructor
  · intro c hc
    cases hsign : d.negative with
    | true =>
      rw [writtenChars_eq hplaces, hsign] at hc
      exact .inl (Option.some.inj hc).symm
    | false =>
      have hnone : signChars false = [] := rfl
      rw [writtenChars_eq hplaces, hsign, hnone, List.nil_append,
        List.head?_append_of_ne_nil _ hseparated.ne_nil] at hc
      exact .inr (hseparated.head c hc)
  · intro c hc
    rw [writtenChars_eq hplaces, ← List.append_assoc] at hc
    by_cases hleast : p.fraction.least = 0
    · rw [if_pos hleast, List.append_nil, List.getLast?_append_of_ne_nil _ hseparated.ne_nil] at hc
      exact hseparated.last c hc
    · have hlength := length_filledFraction hplaces
      have hsome : filledFraction p.fraction.least d ≠ [] := by
        rw [← List.length_pos_iff]
        omega
      rw [if_neg hleast, List.getLast?_append_of_ne_nil _ (List.cons_ne_nil _ _),
        ← List.singleton_append, List.getLast?_append_of_ne_nil _ hsome] at hc
      exact isDigit_filledFraction (List.mem_of_mem_getLast? hc)

include hs hp hplaces in
/-- A written number has no blanks around it, even where blanks separate its groups. -/
theorem strip_writtenChars :
    Text.strip (String.ofList (p.writtenChars s d)) = String.ofList (p.writtenChars s d) ∧
      Text.isAllBlank (String.ofList (p.writtenChars s d)) = false := by
  rcases ends_writtenChars hs hp hplaces with ⟨hhead, hlast⟩
  have hdigit : ∀ c : Char, c.isDigit = true → Unicode.isBlank c = false := by
    intro c hc
    exact Unicode.isBlank_of_isDecimalDigit (Unicode.isDecimalDigit_of_isDigit hc)
  have hstart : ∀ c ∈ (p.writtenChars s d).head?, Unicode.isBlank c = false := by
    intro c hc
    rcases hhead c hc with rfl | hc
    · decide
    · exact hdigit c hc
  constructor
  · rw [Text.strip, String.toList_ofList, Text.stripChars,
      Text.stripWhile_of_ends hstart fun c hc => hdigit c (hlast c hc)]
  · have hne : p.writtenChars s d ≠ [] := by
      have hseparated := separated_wholeDigits (d := d) hs hp
      rw [writtenChars_eq hplaces]
      simp [hseparated.ne_nil]
    obtain ⟨c, cs, hchars⟩ := List.exists_cons_of_ne_nil hne
    have hblank : Unicode.isBlank c = false := hstart c (by rw [hchars]; rfl)
    simp [Text.isAllBlank, hchars, hblank]

end Written

end NumberPattern
end ReceiptTemplate
