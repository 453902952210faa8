import ReceiptTemplate.Proofs.Number.FixedText

/-!
# Point text — digits with a sign and a point

Digits with a point between the whole ones and the others are read as the number that they denote, with an
exponent for the digits after the point.  There can be as many digits as there are exponents.
-/

namespace ReceiptTemplate
namespace Decimal

open Text (readDigits splitSign)
open NumberPattern (signChars)

theorem asciiForm_of_forall {cs : List Char} (h : ∀ c ∈ cs, 0 < c.toNat ∧ c.toNat ≤ 127) :
    asciiForm cs = some cs := by
  unfold asciiForm
  induction cs with
  | nil => rfl
  | cons c cs ih =>
    have hc : asciiChar? c = some c := if_pos (h c List.mem_cons_self)
    have hcs := ih fun d hd => h d (List.mem_cons_of_mem _ hd)
    rw [List.mapM_cons, hc, hcs]
    rfl

/-- A number of so few digits is in the range of all numbers. -/
theorem inRange_readDigits (negative : Bool) {whole fraction : List Char} (hwhole : whole ≠ [])
    (hshort : ((whole ++ fraction).length : Int) ≤ exponentLimit) :
    inRange ⟨negative, readDigits (whole ++ fraction), -(fraction.length : Int)⟩ = true := by
  have hlimit : exponentLimit = 999999999999999999 := rfl
  have hlength : 0 < (whole ++ fraction).length := by
    rw [List.length_append]
    have hpos := List.length_pos_iff.2 hwhole
    omega
  have hcount : digitCount (readDigits (whole ++ fraction)) ≤ (whole ++ fraction).length :=
    (digitCount_le_iff hlength).2 (Text.readDigits_lt _)
  rw [List.length_append] at hshort hcount
  unfold inRange
  split
  · simp only [Bool.and_eq_true, decide_eq_true_eq]
    omega
  · rw [Bool.and_eq_true, decide_eq_true_iff, decide_eq_true_iff, adjusted]
    dsimp only
    omega

/-- Nothing is skipped in a text of digits, signs and points. -/
theorem read?_ofList {cs : List Char} (h : ∀ c ∈ cs, c.isDigit = true ∨ c = '-' ∨ c = '.') :
    read? (String.ofList cs) =
      match readFinite? (splitSign cs).1 (splitSign cs).2 with
      | some d => if d.inRange then some (.finite d) else none
      | none => readSpecial? (splitSign cs).1 (splitSign cs).2 := by
  have hascii : ∀ c ∈ cs, 0 < c.toNat ∧ c.toNat ≤ 127 := by
    intro c hc
    rcases h c hc with hdigit | rfl | rfl
    · have hrange : 48 ≤ c.toNat ∧ c.toNat ≤ 57 := Char.isDigit_iff_toNat.1 hdigit
      omega
    · decide
    · decide
  have hblank : ∀ c ∈ cs, Unicode.isBlank c = false := by
    intro c hc
    rcases h c hc with hdigit | rfl | rfl
    · exact Unicode.isBlank_of_isDecimalDigit (Unicode.isDecimalDigit_of_isDigit hdigit)
    · decide
    · decide
  have hscore : cs.filter (· != '_') = cs := by
    apply Text.filter_bne_of_not_mem
    intro hmem
    rcases h _ hmem with hdigit | hminus | hpoint
    · cases hdigit
    · cases hminus
    · cases hpoint
  have hform : asciiForm ((Text.stripChars (String.ofList cs).toList).filter (· != '_')) = some cs := by
    rw [String.toList_ofList, Text.stripChars, Text.stripWhile_of_forall hblank, hscore]
    exact asciiForm_of_forall hascii
  unfold read?
  generalize asciiForm ((Text.stripChars (String.ofList cs).toList).filter (· != '_')) = form at hform ⊢
  subst hform
  rfl

theorem splitSign_signChars (negative : Bool) {c : Char} (hdigit : c.isDigit = true) (cs : List Char) :
    splitSign (signChars negative ++ c :: cs) = (negative, c :: cs) := by
  cases negative with
  | true => rfl
  | false =>
    show splitSign (c :: cs) = (false, c :: cs)
    unfold splitSign
    split
    · next heq =>
      obtain ⟨rfl, -⟩ := List.cons.inj heq
      exact absurd hdigit (by decide)
    · next heq =>
      obtain ⟨rfl, -⟩ := List.cons.inj heq
      exact absurd hdigit (by decide)
    · rfl

/-- Digits, with a point between the whole ones and the others. -/
def pointChars (whole fraction : List Char) : List Char :=
  whole ++ if fraction.isEmpty then [] else '.' :: fraction

section

variable {negative : Bool} {whole fraction : List Char}
  (hdigits : ∀ c ∈ whole ++ fraction, c.isDigit = true)

include hdigits

theorem mem_pointChars {c : Char} (h : c ∈ signChars negative ++ pointChars whole fraction) :
    c.isDigit = true ∨ c = '-' ∨ c = '.' := by
  rcases List.mem_append.1 h with hsign | hpoint
  · have hminus : c ∈ ['-'] := by
      cases negative with
      | true => exact hsign
      | false => cases hsign
    exact .inr (.inl (List.mem_singleton.1 hminus))
  · rcases List.mem_append.1 hpoint with hwhole | hfraction
    · exact .inl (hdigits c (List.mem_append_left _ hwhole))
    · split at hfraction
      · cases hfraction
      · rcases List.mem_cons.1 hfraction with rfl | hfraction
        · exact .inr (.inr rfl)
        · exact .inl (hdigits c (List.mem_append_right _ hfraction))

/-- Digits with a point are read up to the exponent that follows them. -/
theorem readFinite?_append (hwhole : whole ≠ []) {tail : List Char}
    (htail : ∀ c ∈ tail.head?, c.isDigit = false ∧ c ≠ '.') :
    readFinite? negative (pointChars whole fraction ++ tail) = (readExponent? tail).map fun e =>
      ⟨negative, readDigits (whole ++ fraction), e - fraction.length⟩ := by
  have hwholeDigits : ∀ c ∈ whole, c.isDigit = true := fun c hc => hdigits c (List.mem_append_left _ hc)
  have hnone : whole.isEmpty = false := by simpa using hwhole
  have hstop : ∀ c ∈ tail.head?, c.isDigit = false := fun c hc => (htail c hc).1
  -- Without a fraction no point is written, and the run of digits has to end at the tail itself.
  cases hfraction : fraction with
  | nil =>
    rcases Text.span_run hwholeDigits hstop with ⟨htake, hdrop⟩
    have hchars : pointChars whole [] ++ tail = whole ++ tail := by simp [pointChars]
    unfold readFinite?
    dsimp only
    rw [hchars, htake, hdrop]
    cases tail with
    | nil => cases hread : readExponent? [] <;> simp [hnone]
    | cons c cs =>
      have hc : c ≠ '.' := (htail c rfl).2
      cases hread : readExponent? (c :: cs) <;> simp [hnone, hc, hread]
  | cons c cs =>
    have hcs : ∀ d ∈ c :: cs, d.isDigit = true := by
      intro d hd
      rw [← hfraction] at hd
      exact hdigits d (List.mem_append_right _ hd)
    have hpoint : ∀ d ∈ ('.' :: (c :: cs ++ tail)).head?, d.isDigit = false := by simp
    have hchars : pointChars whole (c :: cs) ++ tail = whole ++ '.' :: (c :: cs ++ tail) := by
      simp [pointChars]
    rcases Text.span_run hwholeDigits hpoint with ⟨htake, hdrop⟩
    rcases Text.span_run hcs hstop with ⟨htake', hdrop'⟩
    unfold readFinite?
    dsimp only
    rw [hchars, htake, hdrop]
    simp only [htake', hdrop']
    cases readExponent? tail <;> simp [hnone]

theorem readFinite?_pointChars (hwhole : whole ≠ []) :
    readFinite? negative (pointChars whole fraction)
      = some ⟨negative, readDigits (whole ++ fraction), -(fraction.length : Int)⟩ := by
  rw [← List.append_nil (pointChars whole fraction), readFinite?_append hdigits hwhole (by simp)]
  simp [readExponent?]

theorem splitSign_pointChars (hwhole : whole ≠ []) :
    splitSign (signChars negative ++ pointChars whole fraction)
      = (negative, pointChars whole fraction) := by
  obtain ⟨c, cs, rfl⟩ := List.exists_cons_of_ne_nil hwhole
  exact splitSign_signChars negative (hdigits c (by simp)) _

/-- A sign and digits with a point are read as they stand. -/
theorem read?_pointChars (hwhole : whole ≠ [])
    (hshort : ((whole ++ fraction).length : Int) ≤ exponentLimit) :
    read? (String.ofList (signChars negative ++ pointChars whole fraction))
      = some (.finite ⟨negative, readDigits (whole ++ fraction), -(fraction.length : Int)⟩) := by
  have hrange := inRange_readDigits negative hwhole hshort
  rw [read?_ofList fun _ hc => mem_pointChars hdigits hc, splitSign_pointChars hdigits hwhole,
    readFinite?_pointChars hdigits hwhole]
  dsimp only
  rw [if_pos hrange]

end

end Decimal
end ReceiptTemplate
