import ReceiptTemplate.Proofs.Decimal.HalfEven
import ReceiptTemplate.Proofs.Number.StrictReading

/-!
# Number notation — the value of a written number

The number part of a text is read without its group separators, with a point for the point of the
locale and ASCII characters for the mark and the sign of an exponent.  Zeros before the whole digits and
after the fraction do not change the value, and neither does where the separators stand.
-/

namespace ReceiptTemplate

/-! ## Texts -/

namespace Text

/-- Zeros in front do not change the value of the digits. -/
theorem readDigits_zeros_append (k : Nat) (cs : List Char) :
    readDigits (List.replicate k '0' ++ cs) = readDigits cs := by
  induction k with
  | zero => rfl
  | succ k ih =>
    rw [List.replicate_succ, List.cons_append, ← ih]
    rfl

/-- A pattern is found where it stands if its first character stands nowhere before. -/
theorem breakOn_append_of_not_mem {c : Char} {pattern cs : List Char} (h : c ∉ cs) (rest : List Char) :
    breakOn (c :: pattern) (cs ++ (c :: pattern ++ rest)) = some (cs, rest) := by
  induction cs with
  | nil =>
    have hprefix : (c :: pattern).isPrefixOf (c :: (pattern ++ rest)) = true :=
      List.isPrefixOf_iff_prefix.2 ⟨rest, rfl⟩
    rw [List.nil_append, List.cons_append, breakOn, if_pos hprefix]
    simp
  | cons d cs ih =>
    rw [List.mem_cons, not_or] at h
    have hprefix : ¬(c :: pattern).isPrefixOf (d :: (cs ++ (c :: pattern ++ rest))) = true := by
      simp [List.isPrefixOf, h.1]
    rw [List.cons_append, breakOn, if_neg hprefix, ih h.2]
    rfl

theorem breakOn_of_not_mem {c : Char} {pattern cs : List Char} (h : c ∉ cs) :
    breakOn (c :: pattern) cs = none := by
  cases hbreak : breakOn (c :: pattern) cs with
  | none => rfl
  | some p =>
    rw [append_of_breakOn hbreak] at h
    simp at h

/-- A nonempty text is no prefix of one that starts differently. -/
theorem not_isPrefixOf_of_head {c : Char} {pattern cs : List Char} (h : ∀ d ∈ cs.head?, d ≠ c) :
    (c :: pattern).isPrefixOf cs = false := by
  cases cs with
  | nil => rfl
  | cons d cs =>
    have hd : d ≠ c := h d rfl
    simp [List.isPrefixOf, hd.symm]

end Text

/-! ## Digits around a point -/

namespace NumberPattern

open Decimal (pointChars readExponent? readFinite?)
open Text (digitsOf padZeros readDigits)

variable {p : NumberPattern} {s : NumberSymbols} {whole fraction digits : List Char}

/-- The number that the digits before and after a point stand for. -/
def pointValue (whole fraction : List Char) : ℚ :=
  readDigits (whole ++ fraction) * 10 ^ (-(fraction.length : ℤ))

theorem pointValue_padZeros (least : Nat) (whole fraction : List Char) :
    pointValue (padZeros least whole) fraction = pointValue whole fraction := by
  rw [pointValue, padZeros, List.append_assoc, Text.readDigits_zeros_append]
  rfl

theorem pointValue_append_zeros (whole fraction : List Char) (k : Nat) :
    pointValue whole (fraction ++ List.replicate k '0') = pointValue whole fraction := by
  have hlength : -(((fraction ++ List.replicate k '0').length : Nat) : ℤ)
      = -(k : ℤ) + -(fraction.length : ℤ) := by
    rw [List.length_append, List.length_replicate]
    push_cast
    ring
  have hcancel : (10 : ℚ) ^ k * 10 ^ (-(k : ℤ)) = 1 := by
    rw [← zpow_natCast, ← ten_zpow_add, add_neg_cancel, zpow_zero]
  rw [pointValue, hlength, ← List.append_assoc, Text.readDigits_append_zeros, ten_zpow_add, pointValue]
  push_cast
  calc (readDigits (whole ++ fraction) : ℚ) * 10 ^ k * (10 ^ (-(k : ℤ)) * 10 ^ (-(fraction.length : ℤ)))
      = readDigits (whole ++ fraction) * (10 ^ k * 10 ^ (-(k : ℤ))) * 10 ^ (-(fraction.length : ℤ)) := by
        ring
    _ = readDigits (whole ++ fraction) * 10 ^ (-(fraction.length : ℤ)) := by rw [hcancel, mul_one]

theorem pointValue_trimZeros (whole fraction : List Char) :
    pointValue whole (trimZeros fraction) = pointValue whole fraction := by
  have hsplit := trimZeros_append fraction
  conv_rhs => rw [← hsplit]
  rw [pointValue_append_zeros]

/-- The digits of a fraction that are written. -/
def shownFraction (least : Nat) (digits : List Char) : List Char :=
  trimZeros digits ++ List.replicate (least - (trimZeros digits).length) '0'

theorem pointValue_shownFraction (least : Nat) (whole fraction : List Char) :
    pointValue whole (shownFraction least fraction) = pointValue whole fraction := by
  rw [shownFraction, pointValue_append_zeros, pointValue_trimZeros]

theorem mem_of_mem_trimZeros {c : Char} (h : c ∈ trimZeros digits) : c ∈ digits := by
  rw [← trimZeros_append digits]
  exact List.mem_append_left _ h

theorem isDigit_shownFraction {least : Nat} (h : ∀ c ∈ fraction, c.isDigit = true) :
    ∀ c ∈ shownFraction least fraction, c.isDigit = true := by
  intro c hc
  rcases List.mem_append.1 hc with hc | hc
  · exact h c (mem_of_mem_trimZeros hc)
  · rw [List.eq_of_mem_replicate hc]
    rfl

/-- The digits of a magnitude around its point stand for it. -/
theorem splitPoint_spec (m : Decimal) :
    (splitPoint m).1 ≠ [] ∧ (∀ c ∈ (splitPoint m).1 ++ (splitPoint m).2, c.isDigit = true) ∧
      pointValue (splitPoint m).1 (splitPoint m).2 = |m.toRat| := by
  by_cases hzero : m.isZero = true → m.exponent ≤ 0
  · have hsplits := splits hzero
    have hlength := hsplits.length_whole
    have hmin : min m.exponent 0 = -((splitPoint m).2.length : ℤ) := by
      rw [hsplits.length_fraction]
      omega
    refine ⟨?_, hsplits.digits, ?_⟩
    · rw [← List.length_pos_iff]
      omega
    · rw [pointValue, hsplits.value, ← hmin, Decimal.coefficientAt_cast (min_le_left _ _),
        Decimal.abs_toRat]
  · -- A zero is written without its power of ten.
    simp only [Classical.not_imp, not_le] at hzero
    have hchars : m.plainChars = ['0'] := by
      rw [Decimal.plainChars, if_pos hzero.2.le, if_pos (Decimal.isZero_iff.1 hzero.1)]
    have hsplit : splitPoint m = (['0'], []) := by
      rw [splitPoint_of_digits (by simp [hchars]), hchars]
    have hvalue : pointValue ['0'] [] = 0 := by
      have hdigits : readDigits ['0'] = 0 := Text.readDigits_zeros_append 1 []
      rw [pointValue, List.append_nil, hdigits, Nat.cast_zero, zero_mul]
    rw [hsplit, Decimal.toRat_of_isZero hzero.1, abs_zero]
    exact ⟨by simp, by simp, hvalue⟩

/-! ## Number parts -/

/-- The characters of the whole digits and of the fraction. -/
def pointText (p : NumberPattern) (least : Nat) (s : NumberSymbols) (whole fraction : List Char) :
    List Char :=
  p.wholeChars least s whole ++ if fraction.isEmpty then [] else s.decimal :: fraction

theorem isDigit_padZeros (least : Nat) (h : ∀ c ∈ digits, c.isDigit = true) :
    ∀ c ∈ padZeros least digits, c.isDigit = true := by
  intro c hc
  rcases List.mem_append.1 hc with hc | hc
  · rw [List.eq_of_mem_replicate hc]
    rfl
  · exact h c hc

/-- Without their separators the whole digits are the ones that were grouped. -/
theorem filter_wholeChars (hs : s.Distinct) (least : Nat) (h : ∀ c ∈ digits, c.isDigit = true) :
    (p.wholeChars least s digits).filter (· != s.group) = padZeros least digits := by
  have hwhole : p.wholeChars least s digits
      = List.intercalate [s.group] (p.digitGroups (padZeros least digits)) := rfl
  have hapart : ∀ part ∈ p.digitGroups (padZeros least digits), s.group ∉ part := by
    intro part hpart hmem
    have hdigit : s.group ∈ padZeros least digits := by
      rw [← flatten_digitGroups p (padZeros least digits)]
      exact List.mem_flatten.2 ⟨part, hpart, hmem⟩
    exact Text.ne_of_isDigit (isDigit_padZeros least h _ hdigit) hs.group.1 rfl
  rw [hwhole, Text.filter_intercalate hapart, flatten_digitGroups]

theorem plainForm_wholeChars (hs : s.Distinct) (least : Nat) (h : ∀ c ∈ digits, c.isDigit = true) :
    plainForm s (p.wholeChars least s digits) = padZeros least digits := by
  have hplain := plainForm_of_isDigit hs (isDigit_padZeros least h)
  have hkept : (padZeros least digits).filter (· != s.group) = padZeros least digits :=
    Text.filter_bne_of_not_mem fun hmem =>
      Text.ne_of_isDigit (isDigit_padZeros least h _ hmem) hs.group.1 rfl
  rw [plainForm, filter_wholeChars hs least h]
  rwa [plainForm, hkept] at hplain

theorem plainForm_pointText (hs : s.Distinct) (least : Nat)
    (h : ∀ c ∈ whole ++ fraction, c.isDigit = true) :
    plainForm s (p.pointText least s whole fraction) = pointChars (padZeros least whole) fraction := by
  have hwhole : ∀ c ∈ whole, c.isDigit = true := fun c hc => h c (List.mem_append_left _ hc)
  have hfraction : ∀ c ∈ fraction, c.isDigit = true := fun c hc => h c (List.mem_append_right _ hc)
  rw [pointText, plainForm_append, plainForm_wholeChars hs least hwhole, pointChars]
  split
  · rfl
  · have hpoint : plainForm s [s.decimal] = ['.'] := by
      simp [plainForm, hs.ne]
    rw [← List.singleton_append, plainForm_append, hpoint, plainForm_of_isDigit hs hfraction]
    rfl

/-- A number part has no characters but digits and the two separators. -/
theorem mem_pointText (hs : s.Distinct) {least : Nat} (h : ∀ c ∈ whole ++ fraction, c.isDigit = true)
    {c : Char} (hc : c ∈ p.pointText least s whole fraction) :
    c.isDigit = true ∨ c = s.group ∨ c = s.decimal := by
  by_cases hgroup : c = s.group
  · exact .inr (.inl hgroup)
  rcases List.mem_append.1 hc with hc | hc
  · have hkept : c ∈ (p.wholeChars least s whole).filter (· != s.group) :=
      List.mem_filter.2 ⟨hc, by simpa using hgroup⟩
    rw [filter_wholeChars hs least fun d hd => h d (List.mem_append_left _ hd)] at hkept
    exact .inl (isDigit_padZeros least (fun d hd => h d (List.mem_append_left _ hd)) c hkept)
  · split at hc
    · cases hc
    · rcases List.mem_cons.1 hc with rfl | hc
      · exact .inr (.inr rfl)
      · exact .inl (h c (List.mem_append_right _ hc))

/-! ## Reading -/

/-- An exponent with an ASCII sign and without separators. -/
def plainExponent (s : NumberSymbols) (cs : List Char) : List Char :=
  if s.minus.toList.isPrefixOf cs then '-' :: plainForm s (cs.drop s.minus.toList.length)
  else if s.plus.toList.isPrefixOf cs then '+' :: plainForm s (cs.drop s.plus.toList.length)
  else plainForm s cs

/-- A number part in ASCII and without separators. -/
def plainNumber (s : NumberSymbols) (cs : List Char) : List Char :=
  match Text.breakOn s.exponential.toList cs with
  | some (mantissa, exponent) => plainForm s mantissa ++ 'E' :: plainExponent s exponent
  | none => plainForm s cs

/-- The number that a number part denotes in the notation of a locale. -/
def denoted? (s : NumberSymbols) (cs : List Char) : Option ℚ :=
  (readFinite? false (plainNumber s cs)).map Decimal.toRat

/-- A mark or a sign that starts neither with a digit nor with a separator. -/
def IsMark (s : NumberSymbols) (mark : String) : Prop :=
  mark.toList ≠ [] ∧ '\'' ∉ mark.toList ∧
    ∀ c ∈ mark.toList.head?, c.isDigit = false ∧ c ≠ s.group ∧ c ≠ s.decimal

instance (s : NumberSymbols) (mark : String) : Decidable (IsMark s mark) :=
  decidable_of_iff (mark.toList ≠ [] ∧ '\'' ∉ mark.toList ∧
      mark.toList.head?.all fun c => !c.isDigit && c != s.group && c != s.decimal)
    (by simp [IsMark, Option.all_eq_true, and_assoc])

/-- The mark and the signs of exponents are told apart from digits and from each other. -/
structure Marked (s : NumberSymbols) : Prop where
  exponential : IsMark s s.exponential
  minus : IsMark s s.minus
  plus : IsMark s s.plus
  signs : s.minus.toList.length = s.plus.toList.length ∧ s.minus.toList ≠ s.plus.toList

end NumberPattern

theorem Locale.marked_symbols (l : Locale) : NumberPattern.Marked l.symbols := by
  have htable : ∀ entry ∈ NumberSymbols.table,
      NumberPattern.IsMark entry.2 entry.2.exponential ∧ NumberPattern.IsMark entry.2 entry.2.minus ∧
        NumberPattern.IsMark entry.2 entry.2.plus ∧
        entry.2.minus.toList.length = entry.2.plus.toList.length ∧
          entry.2.minus.toList ≠ entry.2.plus.toList := by
    decide
  rcases l.findData_cases NumberSymbols.table NumberSymbols.standard with h | ⟨entry, hentry, h⟩
  · rw [symbols, h]
    exact ⟨by decide, by decide, by decide, by decide⟩
  · rcases htable entry hentry with ⟨hexponential, hminus, hplus, hsigns⟩
    rw [symbols, h]
    exact ⟨hexponential, hminus, hplus, hsigns⟩

namespace NumberPattern

open Decimal (pointChars readExponent? readFinite?)
open Text (digitsOf padZeros readDigits)

variable {p : NumberPattern} {s : NumberSymbols} {whole fraction digits : List Char}

/-! ## What is read -/

theorem toRat_point (whole fraction : List Char) (e : ℤ) :
    (⟨false, readDigits (whole ++ fraction), e - fraction.length⟩ : Decimal).toRat
      = pointValue whole fraction * 10 ^ e := by
  have hexponent : e - (fraction.length : ℤ) = -(fraction.length : ℤ) + e := by ring
  rw [Decimal.toRat, if_neg Bool.false_ne_true, hexponent, ten_zpow_add, pointValue]
  ring

theorem padZeros_ne_nil (least : Nat) (h : digits ≠ []) : padZeros least digits ≠ [] := by
  simp [padZeros, h]

section Denoted

variable (hs : s.Distinct) (hm : Marked s) (hwhole : whole ≠ [])
  (h : ∀ c ∈ whole ++ fraction, c.isDigit = true)

include h in
theorem isDigit_padded (least : Nat) : ∀ c ∈ padZeros least whole ++ fraction, c.isDigit = true := by
  intro c hc
  rcases List.mem_append.1 hc with hc | hc
  · exact isDigit_padZeros least (fun d hd => h d (List.mem_append_left _ hd)) c hc
  · exact h c (List.mem_append_right _ hc)

include hs h in
/-- A mark does not start inside the digits. -/
theorem not_mem_pointText {mark : Char} (hmark : mark.isDigit = false ∧ mark ≠ s.group ∧ mark ≠ s.decimal)
    (least : Nat) : mark ∉ p.pointText least s whole fraction := by
  intro hmem
  rcases mem_pointText hs h hmem with hdigit | hgroup | hdecimal
  · rw [hmark.1] at hdigit
    cases hdigit
  · exact hmark.2.1 hgroup
  · exact hmark.2.2 hdecimal

include hs hm hwhole h

theorem denoted?_pointText (least : Nat) :
    denoted? s (p.pointText least s whole fraction) = some (pointValue whole fraction) := by
  obtain ⟨mark, rest, hmark⟩ := List.exists_cons_of_ne_nil hm.exponential.1
  have hfirst := hm.exponential.2.2 mark (by rw [hmark]; rfl)
  have hbreak : Text.breakOn s.exponential.toList (p.pointText least s whole fraction) = none := by
    rw [hmark]
    exact Text.breakOn_of_not_mem (not_mem_pointText hs h hfirst least)
  have hpadded := isDigit_padded h least
  have hfilled := padZeros_ne_nil least hwhole
  have hvalue := toRat_point (padZeros least whole) fraction 0
  rw [zpow_zero, mul_one, zero_sub, pointValue_padZeros] at hvalue
  unfold denoted? plainNumber
  rw [hbreak]
  dsimp only
  rw [plainForm_pointText hs least h, Decimal.readFinite?_pointChars hpadded hfilled]
  exact congrArg some hvalue

/-- With an exponent after it the number is multiplied by a power of ten. -/
theorem denoted?_exponent (least : Nat) {exponent : List Char} {e : ℤ}
    (he : readExponent? ('E' :: plainExponent s exponent) = some e) :
    denoted? s (p.pointText least s whole fraction ++ (s.exponential.toList ++ exponent))
      = some (pointValue whole fraction * 10 ^ e) := by
  obtain ⟨mark, rest, hmark⟩ := List.exists_cons_of_ne_nil hm.exponential.1
  have hfirst := hm.exponential.2.2 mark (by rw [hmark]; rfl)
  have hbreak : Text.breakOn s.exponential.toList
      (p.pointText least s whole fraction ++ (s.exponential.toList ++ exponent))
        = some (p.pointText least s whole fraction, exponent) := by
    rw [hmark]
    exact Text.breakOn_append_of_not_mem (not_mem_pointText hs h hfirst least) exponent
  have hpadded := isDigit_padded h least
  have hfilled := padZeros_ne_nil least hwhole
  have hvalue := toRat_point (padZeros least whole) fraction e
  rw [pointValue_padZeros] at hvalue
  unfold denoted? plainNumber
  rw [hbreak]
  dsimp only
  rw [plainForm_pointText hs least h, Decimal.readFinite?_append hpadded hfilled (by simp), he]
  exact congrArg some hvalue

end Denoted

/-! ## Exponents -/

theorem readExponent?_digits {sign : List Char} (hsign : sign = ['-'] ∨ sign = ['+'] ∨ sign = [])
    (hne : digits ≠ []) (hdigits : ∀ c ∈ digits, c.isDigit = true) :
    readExponent? ('E' :: (sign ++ digits))
      = some (if sign = ['-'] then -(readDigits digits : ℤ) else readDigits digits) := by
  have hsplit : Text.splitSign (sign ++ digits) = (decide (sign = ['-']), digits) := by
    rcases hsign with rfl | rfl | rfl
    · rfl
    · rfl
    · obtain ⟨c, cs, rfl⟩ := List.exists_cons_of_ne_nil hne
      have hc : c.isDigit = true := hdigits c List.mem_cons_self
      show Text.splitSign (c :: cs) = (false, c :: cs)
      unfold Text.splitSign
      split
      · next heq =>
        obtain ⟨rfl, -⟩ := List.cons.inj heq
        cases hc
      · next heq =>
        obtain ⟨rfl, -⟩ := List.cons.inj heq
        cases hc
      · rfl
  have hall : (digits.isEmpty || !digits.all Char.isDigit) = false := by
    have hdigit : digits.all Char.isDigit = true := List.all_eq_true.2 hdigits
    have hempty : digits.isEmpty = false := by simpa using hne
    rw [hdigit, hempty]
    rfl
  simp only [readExponent?, hsplit, hall]
  simp

section Signs

variable (hs : s.Distinct) (hm : Marked s) (hdigits : ∀ c ∈ digits, c.isDigit = true)

include hs hdigits

theorem plainExponent_minus (least : Nat) :
    plainExponent s (s.minus.toList ++ p.wholeChars least s digits) = '-' :: padZeros least digits := by
  have hprefix : s.minus.toList.isPrefixOf (s.minus.toList ++ p.wholeChars least s digits) = true :=
    List.isPrefixOf_iff_prefix.2 (List.prefix_append _ _)
  rw [plainExponent, if_pos hprefix, List.drop_left, plainForm_wholeChars hs least hdigits]

include hm

theorem plainExponent_plus (least : Nat) :
    plainExponent s (s.plus.toList ++ p.wholeChars least s digits) = '+' :: padZeros least digits := by
  have hprefix : s.plus.toList.isPrefixOf (s.plus.toList ++ p.wholeChars least s digits) = true :=
    List.isPrefixOf_iff_prefix.2 (List.prefix_append _ _)
  have hminus : ¬s.minus.toList.isPrefixOf (s.plus.toList ++ p.wholeChars least s digits) = true := by
    rw [List.isPrefixOf_iff_prefix]
    intro hfound
    -- Both signs are as long, so the one would be the other.
    have hsame := List.prefix_of_prefix_length_le hfound (List.prefix_append _ _) hm.signs.1.le
    exact hm.signs.2 (hsame.eq_of_length hm.signs.1)
  rw [plainExponent, if_neg hminus, if_pos hprefix, List.drop_left, plainForm_wholeChars hs least hdigits]

theorem plainExponent_digits (least : Nat) :
    plainExponent s (p.wholeChars least s digits) = padZeros least digits := by
  have hhead (mark : String) (hmark : IsMark s mark) :
      mark.toList.isPrefixOf (p.wholeChars least s digits) = false := by
    obtain ⟨c, rest, hc⟩ := List.exists_cons_of_ne_nil hmark.1
    have hfirst := hmark.2.2 c (by rw [hc]; rfl)
    rw [hc]
    apply Text.not_isPrefixOf_of_head
    rintro d hd rfl
    have hmem : d ∈ p.pointText least s digits [] := by
      rw [pointText, List.isEmpty_nil, if_pos rfl, List.append_nil]
      exact List.mem_of_mem_head? hd
    exact not_mem_pointText hs (by simpa using hdigits) hfirst least hmem
  rw [plainExponent, hhead s.minus hm.minus, hhead s.plus hm.plus, if_neg Bool.false_ne_true,
    if_neg Bool.false_ne_true, plainForm_wholeChars hs least hdigits]

end Signs

/-- The sign and the digits of an exponent. -/
def exponentChars (p : NumberPattern) (s : NumberSymbols) (form : ExponentForm) (e : ℤ) : List Char :=
  (if e < 0 then s.minus else if form.showsPlus then s.plus else "").toList ++
    p.wholeChars form.digits.least s (digitsOf e.natAbs)

theorem readExponent?_exponentChars (hs : s.Distinct) (hm : Marked s) (form : ExponentForm) (e : ℤ) :
    readExponent? ('E' :: plainExponent s (p.exponentChars s form e)) = some e := by
  have hdigits : ∀ c ∈ digitsOf e.natAbs, c.isDigit = true := fun c hc => Text.isDigit_of_mem_digitsOf hc
  have hread {sign : List Char} (hsign : sign = ['-'] ∨ sign = ['+'] ∨ sign = []) :=
    readExponent?_digits hsign (padZeros_ne_nil form.digits.least (Text.digitsOf_ne_nil e.natAbs))
      (isDigit_padZeros form.digits.least hdigits)
  simp only [Text.readDigits_padZeros] at hread
  unfold exponentChars
  by_cases hnegative : e < 0
  · rw [if_pos hnegative, plainExponent_minus hs hdigits]
    refine (hread (.inl rfl)).trans ?_
    rw [if_pos rfl]
    exact congrArg some (by omega)
  · have hvalue : (e.natAbs : ℤ) = e := by omega
    rw [if_neg hnegative]
    by_cases hplus : form.showsPlus = true
    · rw [if_pos hplus, plainExponent_plus hs hm hdigits]
      refine (hread (.inr (.inl rfl))).trans ?_
      rw [if_neg (by decide), hvalue]
    · rw [if_neg hplus, String.toList_empty, List.nil_append, plainExponent_digits hs hm hdigits]
      refine (hread (.inr (.inr rfl))).trans ?_
      rw [if_neg (by decide), hvalue]

end NumberPattern
end ReceiptTemplate
