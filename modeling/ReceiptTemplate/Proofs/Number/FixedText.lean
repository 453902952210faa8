import Mathlib.Data.List.TakeWhile
import ReceiptTemplate.Proofs.Decimal.PlainText
import ReceiptTemplate.Proofs.Decimal.Value
import ReceiptTemplate.Proofs.Number.Writable
import ReceiptTemplate.Proofs.Text.Digits

/-!
# Fixed text — the characters of a number in fixed places

A pattern of plain digits writes a sign, the digits before the point in groups, and the digits after it
filled up with zeros.  Separators stand between groups only, so that dropping them leaves the digits
as they were and both ends of the text are its own.
-/

namespace ReceiptTemplate

/-! ## Separated parts -/

namespace Text

variable {separator : Char} {parts : List (List Char)}

theorem filter_bne_of_not_mem {cs : List Char} (h : separator ∉ cs) :
    cs.filter (· != separator) = cs := by
  rw [List.filter_eq_self]
  intro c hc
  simp only [bne_iff_ne, ne_eq]
  rintro rfl
  exact h hc

theorem filter_intercalate (h : ∀ part ∈ parts, separator ∉ part) :
    (List.intercalate [separator] parts).filter (· != separator) = parts.flatten := by
  induction parts with
  | nil => rfl
  | cons part rest ih =>
    have hpart := filter_bne_of_not_mem (h part List.mem_cons_self)
    have hrest := ih fun q hq => h q (List.mem_cons_of_mem _ hq)
    cases rest with
    | nil => simp [hpart]
    | cons next rest =>
      rw [List.intercalate_cons_cons, List.filter_append, List.filter_append, hrest, hpart]
      simp

theorem mem_intercalate_of_two (first next : List Char) (rest : List (List Char)) :
    separator ∈ List.intercalate [separator] (first :: next :: rest) := by
  rw [List.intercalate_cons_cons]
  simp

/-- Separated parts start and end as the parts do. -/
theorem ends_intercalate (separator : Char) {P : Char → Prop} (hne : parts ≠ [])
    (h : ∀ part ∈ parts, part ≠ [] ∧ ∀ c ∈ part, P c) :
    List.intercalate [separator] parts ≠ [] ∧
      (∀ c ∈ (List.intercalate [separator] parts).head?, P c) ∧
      ∀ c ∈ (List.intercalate [separator] parts).getLast?, P c := by
  induction parts with
  | nil => exact absurd rfl hne
  | cons part rest ih =>
    rcases h part List.mem_cons_self with ⟨hpart, hchars⟩
    cases rest with
    | nil =>
      rw [List.intercalate_singleton]
      refine ⟨hpart, ?_, ?_⟩
      · intro c hc
        exact hchars c (List.mem_of_mem_head? hc)
      · intro c hc
        exact hchars c (List.mem_of_mem_getLast? hc)
    | cons next rest =>
      have hrest := ih (List.cons_ne_nil _ _) fun q hq => h q (List.mem_cons_of_mem _ hq)
      rcases hrest with ⟨hsome, -, hlast⟩
      rw [List.intercalate_cons_cons, List.append_assoc]
      refine ⟨?_, ?_, ?_⟩
      · simp [hpart]
      · intro c hc
        rw [List.head?_append_of_ne_nil _ hpart] at hc
        exact hchars c (List.mem_of_mem_head? hc)
      · intro c hc
        have hend : ([separator] ++ List.intercalate [separator] (next :: rest)) ≠ [] := by simp
        rw [List.getLast?_append_of_ne_nil _ hend, List.getLast?_append_of_ne_nil _ hsome] at hc
        exact hlast c hc

end Text

namespace NumberPattern

open Decimal (FitsAt Limits digitCount)
open Text (digitsOf padZeros readDigits)

variable {p : NumberPattern} {l : Limits} {s : NumberSymbols} {d m : Decimal}

/-! ## Digits around the point -/

theorem splitPoint_of_point {whole fraction : List Char} (hwhole : ∀ c ∈ whole, c.isDigit = true)
    (h : m.plainChars = whole ++ '.' :: fraction) : splitPoint m = (whole, fraction) := by
  have hrun : ∀ c ∈ whole, (c != '.') = true := by
    intro c hc
    exact bne_iff_ne.2 (Text.ne_of_isDigit (hwhole c hc) (by decide))
  have hpoint : ∀ c ∈ ('.' :: fraction).head?, (c != '.') = false := by simp
  rcases Text.span_run hrun hpoint with ⟨htake, hdrop⟩
  unfold splitPoint
  dsimp only
  rw [h, htake, hdrop]
  rfl

theorem splitPoint_of_digits (h : ∀ c ∈ m.plainChars, c.isDigit = true) :
    splitPoint m = (m.plainChars, []) := by
  have hrun : ∀ c ∈ m.plainChars, (c != '.') = true := by
    intro c hc
    exact bne_iff_ne.2 (Text.ne_of_isDigit (h c hc) (by decide))
  unfold splitPoint
  dsimp only
  rw [List.takeWhile_eq_self_iff.2 hrun, List.dropWhile_eq_nil_iff.2 hrun]
  rfl

/-- What stands before and after the point of a magnitude. -/
structure Splits (m : Decimal) (whole fraction : List Char) : Prop where
  digits : ∀ c ∈ whole ++ fraction, c.isDigit = true
  value : readDigits (whole ++ fraction) = m.coefficientAt (min m.exponent 0)
  length_whole : (whole.length : Int) = max 1 (m.adjusted + 1)
  length_fraction : fraction.length = (-m.exponent).toNat

/-- Both parts are digits, as many as the place of the leading digit and the exponent say, and they
spell the coefficient. -/
theorem splits (hzero : m.isZero = true → m.exponent ≤ 0) :
    Splits m (splitPoint m).1 (splitPoint m).2 := by
  have hpos := Decimal.digitCount_pos m.coefficient
  by_cases hexp : 0 ≤ m.exponent
  · have hplain := Decimal.plainChars_of_nonneg hexp
    have hdigits : ∀ c ∈ m.plainChars, c.isDigit = true := by
      rw [hplain]
      exact fun c hc => Text.isDigit_of_mem_digitsOf hc
    have hcount : (digitCount (m.coefficientAt 0) : Int) = max 1 (m.adjusted + 1) := by
      have hshift : m.coefficientAt 0 = m.coefficient * 10 ^ m.exponent.toNat := by
        rw [Decimal.coefficientAt, sub_zero]
        rfl
      by_cases hc : m.coefficient = 0
      · -- A zero has no power of ten to be shown.
        have hexponent := hzero (Decimal.isZero_iff.2 hc)
        rw [hshift, hc, Nat.zero_mul, Decimal.adjusted, hc]
        have hone : digitCount 0 = 1 := rfl
        omega
      · rw [hshift, Decimal.digitCount_mul_pow hc, Decimal.adjusted]
        omega
    rw [splitPoint_of_digits hdigits]
    refine ⟨?_, ?_, ?_, ?_⟩
    · rw [List.append_nil]
      exact hdigits
    · rw [List.append_nil, hplain, Text.readDigits_digitsOf, min_eq_right hexp]
    · rw [hplain]
      exact hcount
    · show 0 = _
      omega
  · obtain ⟨whole, fraction, hplain, hsplit⟩ := Decimal.plainChars_of_neg (Int.not_le.1 hexp)
    have hdigits : ∀ c ∈ whole, c.isDigit = true := fun c hc => hsplit.digits c (List.mem_append_left _ hc)
    rw [splitPoint_of_point hdigits hplain]
    refine ⟨hsplit.digits, ?_, hsplit.length_whole, ?_⟩
    · have hmin : (m.exponent - min m.exponent 0).toNat = 0 := by omega
      rw [hsplit.value, Decimal.coefficientAt, hmin]
      exact (Nat.mul_one _).symm
    · have hfraction := hsplit.length_fraction
      show fraction.length = _
      omega

/-! ## Groups -/

theorem ne_nil_of_mem_groupsFrom {size next : Nat} {digits : List Char} (hsize : size ≠ 0)
    (hnext : next ≠ 0) (hdigits : digits ≠ []) :
    ∀ group ∈ groupsFrom size next digits, group ≠ [] := by
  fun_induction groupsFrom size next digits with
  | case1 size digits hdrop =>
    intro group hgroup
    rw [List.mem_singleton.1 hgroup]
    exact hdigits
  | case2 digits hdrop => exact absurd rfl hsize
  | case3 size digits hdrop hne ih =>
    intro group hgroup
    rcases List.mem_cons.1 hgroup with rfl | hgroup
    · rw [← List.length_pos_iff, List.length_take]
      have hlength := List.length_pos_iff.2 hdigits
      omega
    · exact ih hnext hdrop group hgroup

/-- Groups that have digits in them. -/
structure SizedGroups (p : NumberPattern) : Prop where
  first : p.groups.1 ≠ 0
  next : p.groups.2 ≠ 0

/-- The groups of some digits, from the left. -/
def digitGroups (p : NumberPattern) (digits : List Char) : List (List Char) :=
  ((groupsFrom p.groups.1 p.groups.2 digits.reverse).map List.reverse).reverse

section Groups

variable {digits : List Char}

theorem wholeChars_eq (p : NumberPattern) (s : NumberSymbols) (hdigits : digits ≠ []) :
    p.wholeChars 1 s digits = List.intercalate [s.group] (p.digitGroups digits) := by
  rw [wholeChars, Text.padZeros_of_le (List.length_pos_iff.2 hdigits)]
  rfl

theorem flatten_digitGroups (p : NumberPattern) (digits : List Char) :
    (p.digitGroups digits).flatten = digits := by
  rw [digitGroups, ← List.reverse_flatten, flatten_groupsFrom, List.reverse_reverse]

theorem digitGroups_ne_nil (p : NumberPattern) (hdigits : digits ≠ []) : p.digitGroups digits ≠ [] := by
  intro hnil
  have hflatten := flatten_digitGroups p digits
  rw [hnil] at hflatten
  exact hdigits hflatten.symm

theorem ne_nil_of_mem_digitGroups (hp : p.SizedGroups) (hdigits : digits ≠ []) {group : List Char}
    (h : group ∈ p.digitGroups digits) : group ≠ [] := by
  rcases List.mem_map.1 (List.mem_reverse.1 h) with ⟨reversed, hmem, rfl⟩
  have hreverse : digits.reverse ≠ [] := by simpa using hdigits
  have hne := ne_nil_of_mem_groupsFrom hp.first hp.next hreverse reversed hmem
  simpa using hne

/-- Digits that do not fit in the first group are parted. -/
theorem two_le_length_digitGroups (hp : p.SizedGroups) (h : p.groups.1 < digits.length) :
    2 ≤ (p.digitGroups digits).length := by
  have hdrop : digits.reverse.drop p.groups.1 ≠ [] := by
    rw [← List.length_pos_iff, List.length_drop, List.length_reverse]
    omega
  have hrest : groupsFrom p.groups.2 p.groups.2 (digits.reverse.drop p.groups.1) ≠ [] := by
    intro hnil
    have hflatten := flatten_groupsFrom p.groups.2 p.groups.2 (digits.reverse.drop p.groups.1)
    rw [hnil] at hflatten
    exact hdrop hflatten.symm
  have hlength := List.length_pos_iff.2 hrest
  rw [digitGroups, groupsFrom, dif_neg hdrop, if_neg hp.first]
  simp only [List.length_reverse, List.length_map, List.length_cons]
  omega

theorem digitGroups_of_le (h : digits.length ≤ p.groups.1) : p.digitGroups digits = [digits] := by
  have hdrop : digits.reverse.drop p.groups.1 = [] := by
    rw [← List.length_eq_zero_iff, List.length_drop, List.length_reverse]
    omega
  rw [digitGroups, groupsFrom, dif_pos hdrop]
  simp

end Groups

/-- Digits with separators between their groups. -/
structure Separated (p : NumberPattern) (s : NumberSymbols) (digits chars : List Char) : Prop where
  filter : chars.filter (· != s.group) = digits
  ne_nil : chars ≠ []
  head : ∀ c ∈ chars.head?, c.isDigit = true
  last : ∀ c ∈ chars.getLast?, c.isDigit = true
  long : p.groups.1 < digits.length → s.group ∈ chars
  short : digits.length ≤ p.groups.1 → chars = digits

theorem separated_wholeChars (hp : p.SizedGroups) (hgroup : s.group.isDigit = false) {digits : List Char}
    (hne : digits ≠ []) (hdigits : ∀ c ∈ digits, c.isDigit = true) :
    Separated p s digits (p.wholeChars 1 s digits) := by
  have hmem : ∀ group ∈ p.digitGroups digits, ∀ c ∈ group, c.isDigit = true := by
    intro group hg c hc
    apply hdigits
    rw [← flatten_digitGroups p digits]
    exact List.mem_flatten.2 ⟨group, hg, hc⟩
  have hapart : ∀ group ∈ p.digitGroups digits, s.group ∉ group := by
    intro group hg hc
    exact Text.ne_of_isDigit (hmem group hg _ hc) hgroup rfl
  have hends := Text.ends_intercalate s.group (digitGroups_ne_nil p hne) fun group hg =>
    ⟨ne_nil_of_mem_digitGroups hp hne hg, hmem group hg⟩
  rcases hends with ⟨hchain, hhead, hlast⟩
  rw [wholeChars_eq p s hne]
  refine ⟨?_, hchain, hhead, hlast, ?_, ?_⟩
  · rw [Text.filter_intercalate hapart, flatten_digitGroups]
  · intro h
    match p.digitGroups digits, two_le_length_digitGroups hp h with
    | first :: next :: rest, _ => exact Text.mem_intercalate_of_two first next rest
  · intro h
    rw [digitGroups_of_le h, List.intercalate_singleton]

/-! ## Zeros at the end of a fraction -/

theorem trimZeros_append_zeros (digits : List Char) (k : Nat) :
    trimZeros (digits ++ List.replicate k '0') = trimZeros digits := by
  unfold trimZeros
  rw [List.reverse_append, List.reverse_replicate, List.dropWhile_append_of_pos]
  intro c hc
  simp [List.eq_of_mem_replicate hc]

theorem trimZeros_append (digits : List Char) :
    trimZeros digits ++ List.replicate (digits.length - (trimZeros digits).length) '0' = digits := by
  have hsplit : digits = trimZeros digits ++ (digits.reverse.takeWhile (· == '0')).reverse := by
    unfold trimZeros
    rw [← List.reverse_append, List.takeWhile_append_dropWhile, List.reverse_reverse]
  have hzeros : (digits.reverse.takeWhile (· == '0')).reverse
      = List.replicate (digits.length - (trimZeros digits).length) '0' := by
    rw [List.eq_replicate_iff]
    constructor
    · have hlength := congrArg List.length hsplit
      rw [List.length_append] at hlength
      omega
    · intro c hc
      have hzero := List.mem_takeWhile_imp (List.mem_reverse.1 hc)
      simpa using hzero
  rw [← hzeros]
  exact hsplit.symm

theorem length_trimZeros_le (digits : List Char) : (trimZeros digits).length ≤ digits.length := by
  have hlength := congrArg List.length (trimZeros_append digits)
  rw [List.length_append] at hlength
  omega

/-- A fraction with no more digits than are demanded is filled up with zeros. -/
theorem fractionChars_of_le {least : Nat} (s : NumberSymbols) {digits : List Char}
    (h : digits.length ≤ least) :
    fractionChars least s digits =
      if least = 0 then []
      else s.decimal :: (digits ++ List.replicate (least - digits.length) '0') := by
  have hle := length_trimZeros_le digits
  have hwritten : trimZeros digits ++ List.replicate (least - (trimZeros digits).length) '0'
      = digits ++ List.replicate (least - digits.length) '0' := by
    have hcount : least - (trimZeros digits).length
        = (digits.length - (trimZeros digits).length) + (least - digits.length) := by omega
    calc trimZeros digits ++ List.replicate (least - (trimZeros digits).length) '0'
        = (trimZeros digits ++ List.replicate (digits.length - (trimZeros digits).length) '0') ++
            List.replicate (least - digits.length) '0' := by
          rw [hcount, ← List.replicate_append_replicate, List.append_assoc]
      _ = digits ++ List.replicate (least - digits.length) '0' := by rw [trimZeros_append]
  unfold fractionChars
  dsimp only
  rw [hwritten]
  have hlength : (digits ++ List.replicate (least - digits.length) '0').length = least := by
    rw [List.length_append, List.length_replicate]
    omega
  by_cases hleast : least = 0
  · rw [if_pos hleast, if_pos]
    rw [List.isEmpty_iff, ← List.length_eq_zero_iff, hlength, hleast]
  · rw [if_neg hleast, if_neg]
    rw [List.isEmpty_iff, ← List.length_eq_zero_iff, hlength]
    exact hleast

theorem mem_fractionChars {least : Nat} {digits : List Char} {c : Char}
    (h : c ∈ fractionChars least s digits) : c = s.decimal ∨ c ∈ digits ∨ c = '0' := by
  unfold fractionChars at h
  dsimp only at h
  split at h
  · cases h
  · rcases List.mem_cons.1 h with hdecimal | h
    · exact .inl hdecimal
    · rcases List.mem_append.1 h with hkept | hzero
      · refine .inr (.inl ?_)
        rw [← trimZeros_append digits]
        exact List.mem_append_left _ hkept
      · exact .inr (.inr (List.eq_of_mem_replicate hzero))

/-- Without demands a fraction is written without the zeros at its end. -/
theorem fractionChars_zero (s : NumberSymbols) (digits : List Char) :
    fractionChars 0 s digits =
      if (trimZeros digits).isEmpty then [] else s.decimal :: trimZeros digits := by
  simp [fractionChars]

/-! ## Patterns of plain digits -/

theorem unquote_of_not_mem {cs : List Char} (h : '\'' ∉ cs) : unquote cs = cs := by
  fun_induction unquote cs with
  | case1 => rfl
  | case2 tail quoted rest hbreak ih => exact absurd List.mem_cons_self h
  | case3 tail hbreak => rfl
  | case4 c tail hc ih => rw [ih fun hmem => h (List.mem_cons_of_mem _ hmem)]

/-- A pattern that writes nothing but a minus sign, digits in groups and a point. -/
structure IsPlain (p : NumberPattern) : Prop where
  positive : p.positive = ⟨[], []⟩
  negative : p.negative = ⟨['-'], []⟩
  hasNumber : p.hasNumber = true
  isSignificant : p.isSignificant = false
  whole : p.whole.least = 1
  exponent : p.exponent = none
  groups : p.SizedGroups

theorem IsPlain.scale (hp : p.IsPlain) : p.scale = 0 := by
  unfold NumberPattern.scale
  rw [hp.positive, hp.negative]
  rfl

def signChars (negative : Bool) : List Char :=
  if negative then ['-'] else []

/-- A number in the digits of a pattern. -/
def writtenChars (p : NumberPattern) (s : NumberSymbols) (d : Decimal) : List Char :=
  signChars d.negative ++ (p.wholeChars 1 s (splitPoint d.abs.normalize).1 ++
    fractionChars p.fraction.least s (splitPoint d.abs.normalize).2)

theorem fixedChars_of_fits (hmax : 0 ≤ l.emax) {places : DigitRange}
    (hexact : -(places.most : Int) ≤ m.exponent) (hshort : IsShort places)
    (hfits : FitsAt l places.most m) :
    p.fixedChars l s places m = .ok (p.wholeChars p.whole.least s (splitPoint m).1 ++
      fractionChars places.least s (splitPoint m).2) := by
  have hround : Decimal.roundWithin? l .toEven places.most m = some m := by
    rw [Decimal.roundWithin?_eq_some_iff hmax, Decimal.roundPlaces_of_le hexact]
    exact ⟨rfl, hfits⟩
  have hlook : ¬(places.least = 0 ∧ Text.maxIntegerDigits < places.most) := by
    rintro ⟨hleast, hmost⟩
    exact absurd (hshort hleast) (Nat.not_le.2 hmost)
  unfold fixedChars
  rw [hround]
  dsimp only
  rw [if_neg hlook]

theorem fixedChars_of_not_fits (hmax : 0 ≤ l.emax) {places : DigitRange}
    (hexact : -(places.most : Int) ≤ m.exponent) (hfits : ¬FitsAt l places.most m) :
    p.fixedChars l s places m = .error .imprecise := by
  unfold fixedChars
  rcases Decimal.roundWithin?_cases hmax .toEven places.most m with ⟨hround, -⟩ | ⟨-, hnone⟩
  · rw [Decimal.roundPlaces_of_le hexact] at hround
    exact absurd hround hfits
  · rw [hnone]

theorem format_of_isPlain (hp : p.IsPlain) (hrange : d.isZero = true ∨ d.adjusted ≤ l.emax) :
    p.format l s d = (p.fixedChars l s p.fraction d.abs.normalize).map fun number =>
      String.ofList (unquote (signChars d.negative ++ number)) := by
  have hscaled : ({ d with exponent := d.exponent + (0 : Nat) } : Decimal) = d := by
    simp
  have hover : ¬(!d.isZero && decide (l.emax < d.adjusted)) = true := by
    simp only [Bool.and_eq_true, Bool.not_eq_true', decide_eq_true_eq, not_and]
    intro hzero
    rcases hrange with h | h
    · rw [hzero] at h
      cases h
    · omega
  have hsign : ∀ number : List Char,
      (if d.negative then p.negative else p.positive).before ++ (if p.hasNumber then number else []) ++
          (if d.negative then p.negative else p.positive).after
        = signChars d.negative ++ number := by
    intro number
    rw [hp.positive, hp.negative, hp.hasNumber, signChars]
    cases d.negative <;> simp
  unfold format
  dsimp only
  rw [hp.scale, hscaled, if_neg hover, hp.exponent, hp.isSignificant]
  simp only [Bool.false_eq_true, if_false, hsign]

section Plain

variable (hp : p.IsPlain) (hexact : -(p.fraction.most : Int) ≤ d.abs.normalize.exponent)
  (hmax : 0 ≤ l.emax) (hrange : d.isZero = true ∨ d.adjusted ≤ l.emax)

include hp hexact hmax hrange

/-- A number is written in the digits of the pattern, if they fit the precision. -/
theorem format_eq_ok (hshort : IsShort p.fraction)
    (hfits : FitsAt l p.fraction.most d.abs.normalize) (hquote : '\'' ∉ p.writtenChars s d) :
    p.format l s d = .ok (String.ofList (p.writtenChars s d)) := by
  have hnumber := fixedChars_of_fits (p := p) (s := s) hmax hexact hshort hfits
  rw [format_of_isPlain hp hrange, hnumber, hp.whole]
  show Except.ok (String.ofList (unquote (p.writtenChars s d))) = _
  rw [unquote_of_not_mem hquote]

theorem format_eq_imprecise (hfits : ¬FitsAt l p.fraction.most d.abs.normalize) :
    p.format l s d = .error .imprecise := by
  rw [format_of_isPlain hp hrange, fixedChars_of_not_fits hmax hexact hfits]
  rfl

end Plain

end NumberPattern
end ReceiptTemplate
