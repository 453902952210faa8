import ReceiptTemplate.Proofs.Text.Digits
import ReceiptTemplate.Value.Lookup

/-!
# Digit keys — a key of digits has one spelling

Folding turns no other character into a decimal digit and leaves the digits alone.  A key that
consists of digits is therefore equal, whatever the case, to itself only, and the lookup that ignores
case answers it like the exact one.
-/

namespace ReceiptTemplate

/-! ## Folding and digits -/

namespace Unicode

theorem isDigit_ofNat {n : Nat} (h : 57 < n) : (Char.ofNat n).isDigit = false := by
  rw [Bool.eq_false_iff]
  intro hdigit
  have hrange : 48 ≤ (Char.ofNat n).toNat ∧ (Char.ofNat n).toNat ≤ 57 :=
    Char.isDigit_iff_toNat.1 hdigit
  by_cases hvalid : n.isValidChar
  · have hn : (Char.ofNat n).toNat = n := by
      unfold Char.ofNat
      rw [dif_pos hvalid]
      rfl
    omega
  · -- A number that is no code point stands for the null character.
    have hzero : (Char.ofNat n).toNat = 0 := by
      unfold Char.ofNat
      rw [dif_neg hvalid]
      rfl
    omega

/-- Above ASCII no character folds to digits alone. -/
theorem exists_not_isDigit_caseForm {c : Char} (hc : 128 ≤ c.toNat) :
    ∃ d ∈ caseForm foldShifts foldExpansions c, d.isDigit = false := by
  -- The images of both tables lie above the digits, which is checked once for each table.
  have hshifts : ∀ s ∈ foldShifts, 57 < (s.first : Int) + s.delta := by decide +kernel
  have hexpansions : ∀ p ∈ foldExpansions, p.2 ≠ [] ∧ ∀ n ∈ p.2, 57 < n := by decide +kernel
  unfold caseForm
  split
  · next s hfind =>
    have hs := hshifts s (List.mem_of_find?_eq_some hfind)
    have happlies := List.find?_some hfind
    simp only [Shift.applies, Bool.and_eq_true, decide_eq_true_eq] at happlies
    exact ⟨_, List.mem_singleton.2 rfl, isDigit_ofNat (by omega)⟩
  · split
    · next ns hlookup =>
      rcases List.lookup_eq_some_iff.1 hlookup with ⟨front, back, hsplit, -⟩
      rcases hexpansions (c.toNat, ns) (by simp [hsplit]) with ⟨hne, hlarge⟩
      rcases List.exists_mem_of_ne_nil ns hne with ⟨n, hn⟩
      exact ⟨Char.ofNat n, List.mem_map_of_mem hn, isDigit_ofNat (hlarge n hn)⟩
    · refine ⟨c, List.mem_singleton.2 rfl, ?_⟩
      rw [Bool.eq_false_iff]
      intro hdigit
      have hrange : 48 ≤ c.toNat ∧ c.toNat ≤ 57 := Char.isDigit_iff_toNat.1 hdigit
      omega

theorem isDigit_toLower (c : Char) : c.toLower.isDigit = c.isDigit := by
  unfold Char.toLower
  split
  · next hupper =>
    -- A capital letter and its small form are no digits.
    have hA : 65 ≤ c.toNat := UInt32.le_iff_toNat_le.1 hupper.1
    have hZ : c.toNat ≤ 90 := UInt32.le_iff_toNat_le.1 hupper.2
    have hsum : (c.val + ('a'.val - 'A'.val)).toNat = c.toNat + 32 := by
      have hval : c.val.toNat = c.toNat := rfl
      have hdistance : ('a'.val - 'A'.val).toNat = 32 := rfl
      rw [UInt32.toNat_add, hval, hdistance]
      omega
    rw [Bool.eq_iff_iff, Char.isDigit_iff_toNat, Char.isDigit_iff_toNat]
    show 48 ≤ (c.val + ('a'.val - 'A'.val)).toNat ∧ (c.val + ('a'.val - 'A'.val)).toNat ≤ 57 ↔
      48 ≤ c.toNat ∧ c.toNat ≤ 57
    omega
  · rfl

theorem isDigit_of_foldForm {c : Char} (h : ∀ d ∈ foldForm c, d.isDigit = true) :
    c.isDigit = true := by
  by_cases hc : c.toNat < 0x80
  · rw [foldForm, if_pos hc] at h
    rw [← isDigit_toLower]
    exact h c.toLower (List.mem_singleton.2 rfl)
  · rw [foldForm, if_neg hc] at h
    rcases exists_not_isDigit_caseForm (Nat.le_of_not_lt hc) with ⟨d, hd, hdigit⟩
    rw [h d hd] at hdigit
    cases hdigit

theorem foldForm_of_isDigit {c : Char} (h : c.isDigit = true) : foldForm c = [c] := by
  have hrange : 48 ≤ c.toNat ∧ c.toNat ≤ 57 := Char.isDigit_iff_toNat.1 h
  have hlower : c.toLower = c := by
    unfold Char.toLower
    rw [dif_neg]
    intro hupper
    have hA : 65 ≤ c.toNat := UInt32.le_iff_toNat_le.1 hupper.1
    omega
  rw [foldForm, if_pos (by omega), hlower]

end Unicode

namespace Text

theorem flatMap_foldForm_of_isDigit {cs : List Char} (h : ∀ c ∈ cs, c.isDigit = true) :
    cs.flatMap Unicode.foldForm = cs := by
  induction cs with
  | nil => rfl
  | cons c cs ih =>
    rcases List.forall_mem_cons.1 h with ⟨hc, hcs⟩
    rw [List.flatMap_cons, Unicode.foldForm_of_isDigit hc, ih hcs]
    rfl

/-- Texts that fold alike have the same forms of characters in a row. -/
theorem flatMap_foldForm_of_fold_eq {s t : String} (h : fold s = fold t) :
    s.toList.flatMap Unicode.foldForm = t.toList.flatMap Unicode.foldForm := by
  simpa only [fold, String.toList_ofList] using congrArg String.toList h

/-- A text that folds to the form of a run of digits is that run. -/
theorem eq_of_fold_eq {s digits : String} (hdigits : ∀ c ∈ digits.toList, c.isDigit = true)
    (h : fold s = fold digits) : s = digits := by
  have hforms : s.toList.flatMap Unicode.foldForm = digits.toList := by
    rw [flatMap_foldForm_of_fold_eq h, flatMap_foldForm_of_isDigit hdigits]
  have hs : ∀ c ∈ s.toList, c.isDigit = true := by
    intro c hc
    apply Unicode.isDigit_of_foldForm
    intro d hd
    exact hdigits d (hforms ▸ List.mem_flatMap.2 ⟨c, hc, hd⟩)
  have hlists : s.toList = digits.toList := by
    rw [← hforms, flatMap_foldForm_of_isDigit hs]
  exact String.toList_inj.1 hlists

/-- Digits have no blanks around them. -/
theorem strip_of_isDigit {s : String} (h : ∀ c ∈ s.toList, c.isDigit = true) : strip s = s := by
  have hblank : ∀ c ∈ s.toList, Unicode.isBlank c = false := by
    intro c hc
    exact Unicode.isBlank_of_isDecimalDigit (Unicode.isDecimalDigit_of_isDigit (h c hc))
  rw [strip, stripChars, stripWhile_of_forall hblank, String.ofList_toList]

end Text

/-! ## Lookup -/

theorem Value.property?_of_isDigit (entries : Entries Value) {key : String}
    (h : ∀ c ∈ key.toList, c.isDigit = true) :
    property? entries key = exactProperty? entries key := by
  unfold property? exactProperty?
  rw [Text.strip_of_isDigit h]
  cases hget : entries.get? key with
  | some v => rfl
  | none =>
    -- A key that is equal but for the case would be the key itself, which the object does not have.
    have hfind : entries.find? (fun p => Text.fold p.1 == Text.fold key) = none := by
      rw [List.find?_eq_none]
      intro p hp hfold
      have hkey : p.1 = key := Text.eq_of_fold_eq h (beq_iff_eq.1 hfold)
      have hnone : entries.find? (·.1 == key) = none := by
        simpa [Entries.get?] using hget
      exact List.find?_eq_none.1 hnone p hp (beq_iff_eq.2 hkey)
    show (entries.find? fun p => Text.fold p.1 == Text.fold key).map (·.2) = none
    rw [hfind]
    rfl

theorem Value.property?_integerText (entries : Entries Value) (n : Nat) :
    property? entries (Text.integerText n) = exactProperty? entries (Text.integerText n) := by
  have hdigits : (Text.integerText n).toList = Text.digitsOf n := by
    simp [Text.integerText]
  apply property?_of_isDigit
  intro c hc
  rw [hdigits] at hc
  exact Text.isDigit_of_mem_digitsOf hc

end ReceiptTemplate
