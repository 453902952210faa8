import Mathlib.Algebra.Group.Nat.Defs
import Mathlib.Data.List.Basic
import ReceiptTemplate.Text.Integer

/-!
# Digits — written numbers read back

The decimal digits of a number are ASCII digits, and their positional value is the number, with or
without zeros in front.  Among the ASCII characters the decimal digits are `0` to `9`; every other
script has its digits further up.
-/

namespace ReceiptTemplate

/-! ## Runs of characters -/

/-- A run of characters ends where a character of another kind begins. -/
theorem Text.span_run {p : Char → Bool} {run rest : List Char} (hrun : ∀ c ∈ run, p c = true)
    (hrest : ∀ c ∈ rest.head?, p c = false) :
    (run ++ rest).takeWhile p = run ∧ (run ++ rest).dropWhile p = rest := by
  rw [List.takeWhile_append_of_pos hrun, List.dropWhile_append_of_pos hrun]
  cases rest with
  | nil => simp
  | cons c cs =>
    have hc : p c = false := hrest c (by simp)
    simp [hc]

/-- There is nothing to strip from a text whose ends are kept. -/
theorem Text.stripWhile_of_ends {drops : Char → Bool} {cs : List Char}
    (hhead : ∀ c ∈ cs.head?, drops c = false) (hlast : ∀ c ∈ cs.getLast?, drops c = false) :
    stripWhile drops cs = cs := by
  have hdrop : ∀ ds : List Char, (∀ c ∈ ds.head?, drops c = false) → ds.dropWhile drops = ds := by
    intro ds hds
    cases ds with
    | nil => rfl
    | cons c ds => simp [hds c rfl]
  have hreverse : ∀ c ∈ cs.reverse.head?, drops c = false := by
    rw [List.head?_reverse]
    exact hlast
  rw [stripWhile, hdrop cs hhead, hdrop cs.reverse hreverse, List.reverse_reverse]

theorem Text.stripWhile_of_forall {drops : Char → Bool} {cs : List Char}
    (h : ∀ c ∈ cs, drops c = false) : stripWhile drops cs = cs := by
  apply stripWhile_of_ends
  · intro c hc
    exact h c (List.mem_of_mem_head? hc)
  · intro c hc
    exact h c (List.mem_of_mem_getLast? hc)

/-- What is stripped is kept at both ends. -/
theorem Text.ends_stripWhile (drops : Char → Bool) (cs : List Char) :
    (∀ c ∈ (stripWhile drops cs).head?, drops c = false) ∧
      ∀ c ∈ (stripWhile drops cs).getLast?, drops c = false := by
  have hfirst : ∀ ds : List Char, ∀ c ∈ (ds.dropWhile drops).head?, drops c = false := by
    intro ds c hc
    have hkept := List.head?_dropWhile_not drops ds
    rw [Option.mem_def.1 hc] at hkept
    exact hkept
  constructor
  · -- The text without the characters at its end starts as it did with them.
    intro c hc
    have hprefix : stripWhile drops cs <+: cs.dropWhile drops := by
      rw [← List.reverse_suffix, stripWhile, List.reverse_reverse]
      exact List.dropWhile_suffix drops
    obtain ⟨dropped, hsplit⟩ := hprefix
    refine hfirst cs c ?_
    rw [← hsplit, List.head?_append, Option.mem_def.1 hc]
    rfl
  · intro c hc
    rw [stripWhile, List.getLast?_reverse] at hc
    exact hfirst _ c hc

theorem Text.strip_strip (s : String) : strip (strip s) = strip s := by
  rcases ends_stripWhile Unicode.isBlank s.toList with ⟨hhead, hlast⟩
  rw [strip, strip, String.toList_ofList, stripChars, stripChars, stripWhile_of_ends hhead hlast]

theorem Text.mem_of_mem_stripWhile {drops : Char → Bool} {cs : List Char} {c : Char}
    (h : c ∈ stripWhile drops cs) : c ∈ cs := by
  have hrest := (List.dropWhile_sublist drops).mem (List.mem_reverse.1 h)
  exact (List.dropWhile_sublist drops).mem (List.mem_reverse.1 hrest)

/-! ## Decimal digits among ASCII characters -/

namespace Unicode

theorem isDecimalDigit_iff {c : Char} :
    isDecimalDigit c = true ↔ ∃ z ∈ zeroDigits, z ≤ c.toNat ∧ c.toNat < z + 10 := by
  simp [isDecimalDigit, digitValue?]

/-- The zeros of all scripts but the Latin one lie above ASCII. -/
theorem eq_or_le_of_mem_zeroDigits {z : Nat} (h : z ∈ zeroDigits) : z = 48 ∨ 128 ≤ z := by
  revert z
  decide

theorem isDecimalDigit_of_lt {c : Char} (h : c.toNat < 128) : isDecimalDigit c = c.isDigit := by
  rw [Bool.eq_iff_iff, isDecimalDigit_iff, Char.isDigit_iff_toNat]
  constructor
  · rintro ⟨z, hz, hlo, hhi⟩
    rcases eq_or_le_of_mem_zeroDigits hz with rfl | hz
    · exact ⟨hlo, Nat.le_of_lt_succ hhi⟩
    · omega
  · rintro ⟨hlo, hhi⟩
    exact ⟨48, by decide, hlo, Nat.lt_succ_of_le hhi⟩

theorem isBlank_of_isDecimalDigit {c : Char} (h : isDecimalDigit c = true) :
    isBlank c = false := by
  -- The digits of no script meet a range of blanks, which is checked once for all of them.
  have hapart : ∀ z ∈ zeroDigits, ∀ r ∈ blankRanges, z + 10 ≤ r.1 ∨ r.2 < z := by decide
  rcases isDecimalDigit_iff.1 h with ⟨z, hz, hlo, hhi⟩
  rw [isBlank, Bool.eq_false_iff, Ne, inRanges_iff]
  rintro ⟨r, hr, hle, hge⟩
  have := hapart z hz r hr
  omega

theorem digitValue?_of_isDigit {c : Char} (h : c.isDigit = true) :
    digitValue? c = some (c.toNat - 48) := by
  have hb : 48 ≤ c.toNat ∧ c.toNat ≤ 57 := Char.isDigit_iff_toNat.1 h
  have hlt : c.toNat < 58 := by omega
  simp [digitValue?, zeroDigits, hb.1, hlt]

theorem isDecimalDigit_of_isDigit {c : Char} (h : c.isDigit = true) : isDecimalDigit c = true := by
  simp [isDecimalDigit, digitValue?_of_isDigit h]

/-- What a character counts for among digits is a digit of the decimal system. -/
theorem getD_digitValue?_lt (c : Char) : (digitValue? c).getD 0 < 10 := by
  cases hc : digitValue? c with
  | none => decide
  | some v => exact digitValue?_lt hc

end Unicode

/-! ## Positional value -/

namespace Text

open Unicode (digitValue? digitValue?_of_isDigit)

/-- On ASCII digits the value is the one that the core library computes. -/
theorem readDigitsFrom_of_isDigit {cs : List Char} (h : ∀ c ∈ cs, c.isDigit = true) (acc : Nat) :
    readDigitsFrom acc cs = Nat.ofDigitChars 10 cs acc := by
  induction cs generalizing acc with
  | nil => simp [readDigitsFrom]
  | cons c cs ih =>
    have hc := digitValue?_of_isDigit (h c (by simp))
    have htail : ∀ d ∈ cs, d.isDigit = true := fun d hd => h d (by simp [hd])
    have hstep : readDigitsFrom acc (c :: cs) = readDigitsFrom (10 * acc + (c.toNat - 48)) cs := by
      simp [readDigitsFrom, hc]
    rw [hstep, ih htail, Nat.ofDigitChars_cons]
    rfl

/-- A run of digits stands for a number that is no longer than the run. -/
theorem readDigits_lt (cs : List Char) : readDigits cs < 10 ^ cs.length := by
  -- With digits read before, the run moves their value up by its own length.
  suffices h : ∀ acc, readDigitsFrom acc cs < (acc + 1) * 10 ^ cs.length by
    have hzero := h 0
    rwa [Nat.zero_add, Nat.one_mul] at hzero
  induction cs with
  | nil =>
    intro acc
    simp [readDigitsFrom]
  | cons c cs ih =>
    intro acc
    have hvalue := Unicode.getD_digitValue?_lt c
    calc readDigitsFrom acc (c :: cs)
        = readDigitsFrom (10 * acc + (digitValue? c).getD 0) cs := rfl
      _ < (10 * acc + (digitValue? c).getD 0 + 1) * 10 ^ cs.length := ih _
      _ ≤ ((acc + 1) * 10) * 10 ^ cs.length := Nat.mul_le_mul_right _ (by omega)
      _ = (acc + 1) * 10 ^ (c :: cs).length := by
          rw [List.length_cons, Nat.pow_succ', Nat.mul_assoc]

theorem ne_of_isDigit {c d : Char} (hc : c.isDigit = true) (hd : d.isDigit = false) : c ≠ d := by
  rintro rfl
  rw [hc] at hd
  cases hd

theorem isDigit_of_mem_digitsOf {n : Nat} {c : Char} (h : c ∈ digitsOf n) : c.isDigit = true :=
  Nat.isDigit_of_mem_toDigits (by decide) (by decide) h

theorem isDecimalDigit_of_mem_digitsOf {n : Nat} {c : Char} (h : c ∈ digitsOf n) :
    Unicode.isDecimalDigit c = true :=
  Unicode.isDecimalDigit_of_isDigit (isDigit_of_mem_digitsOf h)

theorem digitsOf_ne_nil (n : Nat) : digitsOf n ≠ [] :=
  Nat.toDigits_ne_nil

theorem isDigit_of_mem_padZeros {width n : Nat} {c : Char}
    (h : c ∈ padZeros width (digitsOf n)) : c.isDigit = true := by
  rcases List.mem_append.1 h with hz | hd
  · rw [List.eq_of_mem_replicate hz]
    decide
  · exact isDigit_of_mem_digitsOf hd

/-- Zeros in front do not change the value of the digits. -/
theorem readDigits_padZeros (width n : Nat) : readDigits (padZeros width (digitsOf n)) = n := by
  have hdigits : ∀ c ∈ padZeros width (digitsOf n), c.isDigit = true :=
    fun c hc => isDigit_of_mem_padZeros hc
  rw [readDigits, readDigitsFrom_of_isDigit hdigits, padZeros, Nat.ofDigitChars_append,
    Nat.ofDigitChars_replicate_zero, Nat.mul_zero]
  exact Nat.ofDigitChars_ten_toDigits

theorem readDigits_digitsOf (n : Nat) : readDigits (digitsOf n) = n := by
  simpa [padZeros] using readDigits_padZeros 0 n

/-- Zeros at the end move the value of the digits up. -/
theorem readDigits_append_zeros (cs : List Char) (k : Nat) :
    readDigits (cs ++ List.replicate k '0') = readDigits cs * 10 ^ k := by
  have hzeros : ∀ acc, readDigitsFrom acc (List.replicate k '0') = acc * 10 ^ k := by
    induction k with
    | zero => simp [readDigitsFrom]
    | succ k ih =>
      intro acc
      calc readDigitsFrom acc (List.replicate (k + 1) '0')
          = readDigitsFrom (10 * acc) (List.replicate k '0') := rfl
        _ = 10 * acc * 10 ^ k := ih _
        _ = acc * 10 ^ (k + 1) := by rw [Nat.pow_succ', ← Nat.mul_assoc, Nat.mul_comm acc 10]
  have hsplit : readDigits (cs ++ List.replicate k '0')
      = readDigitsFrom (readDigits cs) (List.replicate k '0') := List.foldl_append
  rw [hsplit, hzeros]

theorem padZeros_of_le {width : Nat} {digits : List Char} (h : width ≤ digits.length) :
    padZeros width digits = digits := by
  rw [padZeros, Nat.sub_eq_zero_of_le h]
  rfl

theorem length_padZeros (width : Nat) (digits : List Char) :
    (padZeros width digits).length = max width digits.length := by
  simp [padZeros]
  omega

end Text
end ReceiptTemplate
