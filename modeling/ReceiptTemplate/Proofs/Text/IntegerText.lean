import ReceiptTemplate.Proofs.Text.Digits

/-!
# Integer texts — which texts denote an integer

An integer is spelled with a sign or none and with groups of decimal digits that single underscores part.
A text is read as the integer that it spells, unless it has too many digits.

A run of characters that look like digits has no blanks, signs or underscores in it, so that it denotes an
integer exactly when they are decimal digits and not too many.  ASCII digits after an optional minus sign
denote their positional value.
-/

namespace ReceiptTemplate

open Unicode (isDecimalDigit isDigitLike isNumberBlank)

/-! ## Texts that look like numbers -/

namespace Unicode

theorem isDigitLike_iff {c : Char} :
    isDigitLike c = true ↔
      (∃ z ∈ zeroDigits, z ≤ c.toNat ∧ c.toNat < z + 10) ∨
        ∃ r ∈ typographicDigitRanges, r.1 ≤ c.toNat ∧ c.toNat ≤ r.2 := by
  rw [isDigitLike, Bool.or_eq_true, isDecimalDigit_iff, inRanges_iff]

/-- Digits, and characters that look like one, are no blanks, signs or underscores. -/
theorem ne_of_isDigitLike {c : Char} (h : isDigitLike c = true) :
    isNumberBlank c = false ∧ c ≠ '-' ∧ c ≠ '+' ∧ c ≠ '_' := by
  have hzeros : ∀ z ∈ zeroDigits, 48 ≤ z ∧ ¬(z ≤ 95 ∧ 95 < z + 10) ∧
      ∀ r ∈ blankRanges, z + 10 ≤ r.1 ∨ r.2 < z := by decide
  have hranges : ∀ r ∈ typographicDigitRanges, 128 ≤ r.1 ∧
      ∀ b ∈ blankRanges, r.2 < b.1 ∨ b.2 < r.1 := by decide
  have hblank : isBlank c = false := by
    rw [isBlank, Bool.eq_false_iff, Ne, inRanges_iff]
    rintro ⟨b, hb, hlo, hhi⟩
    rcases isDigitLike_iff.1 h with ⟨z, hz, hzlo, hzhi⟩ | ⟨r, hr, hrlo, hrhi⟩
    · have := (hzeros z hz).2.2 b hb
      omega
    · have := (hranges r hr).2 b hb
      omega
  -- Signs lie below the digits, and the underscore is the character 95.
  have hrange : 48 ≤ c.toNat ∧ c.toNat ≠ 95 := by
    rcases isDigitLike_iff.1 h with ⟨z, hz, hzlo, hzhi⟩ | ⟨r, hr, hrlo, hrhi⟩
    · have := hzeros z hz
      omega
    · have := (hranges r hr).1
      omega
  refine ⟨by simp [isNumberBlank, hblank], ?_, ?_, ?_⟩ <;> rintro rfl <;> simp at hrange

end Unicode

namespace Text

/-- A character of a text is its sign or stands after it. -/
theorem mem_of_mem_splitSign {cs : List Char} {c : Char} (h : c ∈ cs) :
    c = '-' ∨ c = '+' ∨ c ∈ (splitSign cs).2 := by
  unfold splitSign
  split
  · rcases List.mem_cons.1 h with rfl | h
    · exact .inl rfl
    · exact .inr (.inr h)
  · rcases List.mem_cons.1 h with rfl | h
    · exact .inr (.inl rfl)
    · exact .inr (.inr h)
  · exact .inr (.inr h)

theorem mem_of_splitSign {cs : List Char} {c : Char} (h : c ∈ (splitSign cs).2) : c ∈ cs := by
  unfold splitSign at h
  split at h
  · exact List.mem_cons_of_mem _ h
  · exact List.mem_cons_of_mem _ h
  · exact h

/-! ## Groups of digits -/

/-- Decimal digits in groups that single underscores part, and the digits without the underscores. -/
inductive Grouped : List Char → List Char → Prop
  | groups {gs : List (List Char)} (hne : gs ≠ [])
      (hdigits : ∀ g ∈ gs, g ≠ [] ∧ ∀ c ∈ g, isDecimalDigit c = true) :
      Grouped (['_'].intercalate gs) gs.flatten

section Groups

variable {c : Char} {cs ds : List Char}

theorem Grouped.digit (hc : isDecimalDigit c = true) : Grouped [c] [c] := by
  have hgroup : ∀ g ∈ [[c]], g ≠ [] ∧ ∀ d ∈ g, isDecimalDigit d = true := by simpa using hc
  exact Grouped.groups (List.cons_ne_nil _ _) hgroup

/-- A digit before an underscore is a group of its own. -/
theorem Grouped.part (hc : isDecimalDigit c = true) (h : Grouped cs ds) :
    Grouped (c :: '_' :: cs) (c :: ds) := by
  obtain ⟨hne, hdigits⟩ := h
  obtain ⟨g, gs, rfl⟩ := List.exists_cons_of_ne_nil hne
  have hgroups : ∀ g' ∈ [c] :: g :: gs, g' ≠ [] ∧ ∀ d ∈ g', isDecimalDigit d = true :=
    List.forall_mem_cons.2 ⟨⟨List.cons_ne_nil _ _, by simpa using hc⟩, hdigits⟩
  simpa [List.intercalate_cons_cons] using Grouped.groups (List.cons_ne_nil _ _) hgroups

/-- A digit before another one belongs to its group. -/
theorem Grouped.cons (hc : isDecimalDigit c = true) (h : Grouped cs ds) : Grouped (c :: cs) (c :: ds) := by
  obtain ⟨hne, hdigits⟩ := h
  obtain ⟨g, gs, rfl⟩ := List.exists_cons_of_ne_nil hne
  rcases List.forall_mem_cons.1 hdigits with ⟨⟨-, hg⟩, hgs⟩
  have hgroups : ∀ g' ∈ (c :: g) :: gs, g' ≠ [] ∧ ∀ d ∈ g', isDecimalDigit d = true :=
    List.forall_mem_cons.2 ⟨⟨List.cons_ne_nil _ _, List.forall_mem_cons.2 ⟨hc, hg⟩⟩, hgs⟩
  have h := Grouped.groups (List.cons_ne_nil _ _) hgroups
  cases gs with
  | nil => simpa using h
  | cons g' gs => simpa [List.intercalate_cons_cons] using h

/-- Where no underscore follows, one digit is taken at a time. -/
theorem ungroupDigits_cons_cons {d : Char} (hd : d ≠ '_') :
    ungroupDigits (c :: d :: cs)
      = if isDecimalDigit c then (ungroupDigits (d :: cs)).map (c :: ·) else none := by
  conv_lhs => unfold ungroupDigits
  split <;> simp_all

/-- Without underscores a run of digits stays as it is. -/
theorem ungroupDigits_isSome (hne : cs ≠ []) (h : ∀ c ∈ cs, c ≠ '_') :
    ungroupDigits cs = if cs.all isDecimalDigit then some cs else none := by
  induction cs with
  | nil => exact absurd rfl hne
  | cons c cs ih =>
    cases cs with
    | nil => cases hc : isDecimalDigit c <;> simp [ungroupDigits, hc]
    | cons d ds =>
      rw [ungroupDigits_cons_cons (h d (by simp)), ih (by simp) fun x hx => h x (List.mem_cons_of_mem _ hx)]
      cases hc : isDecimalDigit c <;> cases hds : (d :: ds).all isDecimalDigit <;>
        simp_all

/-- The digits of a group come before those of the groups after it. -/
theorem ungroupDigits_append {g : List Char} (hne : g ≠ []) (hg : ∀ c ∈ g, isDecimalDigit c = true) :
    ungroupDigits (g ++ '_' :: cs) = (ungroupDigits cs).map (g ++ ·) := by
  induction g with
  | nil => exact absurd rfl hne
  | cons c g ih =>
    rcases List.forall_mem_cons.1 hg with ⟨hc, hg⟩
    cases g with
    | nil =>
      rw [List.cons_append, List.nil_append, ungroupDigits, if_pos hc]
      rfl
    | cons d g =>
      have hd : d ≠ '_' := by
        rintro rfl
        exact absurd (hg _ List.mem_cons_self) (by decide)
      have hrest : ungroupDigits (d :: (g ++ '_' :: cs)) = (ungroupDigits cs).map (d :: g ++ ·) :=
        ih (List.cons_ne_nil d g) hg
      rw [List.cons_append, List.cons_append, ungroupDigits_cons_cons hd, if_pos hc, hrest, Option.map_map]
      rfl

theorem grouped_of_ungroupDigits (h : ungroupDigits cs = some ds) : Grouped cs ds := by
  fun_induction ungroupDigits cs generalizing ds with
  | case1 => cases h
  | case2 d hd =>
    cases h
    exact .digit hd
  | case4 d cs hd ih =>
    obtain ⟨rest, hrest, rfl⟩ := Option.map_eq_some_iff.1 h
    exact .part hd (ih hrest)
  | case6 d cs _ _ hd ih =>
    obtain ⟨rest, hrest, rfl⟩ := Option.map_eq_some_iff.1 h
    exact .cons hd (ih hrest)
  | case3 | case5 | case7 => cases h

theorem ungroupDigits_eq_some_iff : ungroupDigits cs = some ds ↔ Grouped cs ds := by
  refine ⟨grouped_of_ungroupDigits, ?_⟩
  rintro ⟨hne, hdigits⟩
  rename_i gs
  induction gs with
  | nil => exact absurd rfl hne
  | cons g gs ih =>
    rcases List.forall_mem_cons.1 hdigits with ⟨⟨hg, hgdigits⟩, hgs⟩
    cases gs with
    | nil =>
      have hnone : ∀ c ∈ g, c ≠ '_' := by
        rintro _ hc rfl
        exact absurd (hgdigits _ hc) (by decide)
      have hread := ungroupDigits_isSome hg hnone
      rw [if_pos (List.all_eq_true.2 hgdigits)] at hread
      simpa using hread
    | cons g' gs =>
      rw [List.intercalate_cons_cons, List.append_assoc, List.singleton_append, ungroupDigits_append hg hgdigits,
        ih (List.cons_ne_nil _ _) hgs]
      rfl

end Groups

/-! ## Integers -/

/-- The characters spell an integer with certain digits: a sign or none stands before the groups. -/
inductive Spells : List Char → List Char → Int → Prop
  | unsigned {cs ds : List Char} (h : Grouped cs ds) : Spells cs ds (readDigits ds)
  | plus {cs ds : List Char} (h : Grouped cs ds) : Spells ('+' :: cs) ds (readDigits ds)
  | minus {cs ds : List Char} (h : Grouped cs ds) : Spells ('-' :: cs) ds (-(readDigits ds : Int))

/-- Groups of digits have no sign in front. -/
theorem Grouped.splitSign_eq {cs ds : List Char} (h : Grouped cs ds) : splitSign cs = (false, cs) := by
  obtain ⟨c, rest, rfl, hc⟩ : ∃ c rest, cs = c :: rest ∧ isDecimalDigit c = true := by
    obtain ⟨hne, hdigits⟩ := h
    obtain ⟨g, gs, rfl⟩ := List.exists_cons_of_ne_nil hne
    rcases List.forall_mem_cons.1 hdigits with ⟨⟨hg, hgdigits⟩, -⟩
    obtain ⟨c, g, rfl⟩ := List.exists_cons_of_ne_nil hg
    have hc := hgdigits c List.mem_cons_self
    cases gs with
    | nil => exact ⟨c, g, List.intercalate_singleton, hc⟩
    | cons g' gs => exact ⟨c, _, List.intercalate_cons_cons, hc⟩
  unfold splitSign
  split
  · next heq =>
    obtain ⟨rfl, -⟩ := List.cons.inj heq
    exact absurd hc (by decide)
  · next heq =>
    obtain ⟨rfl, -⟩ := List.cons.inj heq
    exact absurd hc (by decide)
  · rfl

theorem spells_iff {cs ds : List Char} {n : Int} :
    Spells cs ds n ↔ Grouped (splitSign cs).2 ds ∧
      n = if (splitSign cs).1 then -(readDigits ds : Int) else readDigits ds := by
  constructor
  · intro h
    cases h with
    | unsigned h => exact ⟨h.splitSign_eq ▸ h, by rw [h.splitSign_eq]; rfl⟩
    | plus h => exact ⟨h, rfl⟩
    | minus h => exact ⟨h, rfl⟩
  · rintro ⟨h, rfl⟩
    revert h
    unfold splitSign
    split
    · exact .minus
    · exact .plus
    · exact .unsigned

/-- The digits of a text are unique. -/
theorem Spells.digits_unique {cs ds es : List Char} {n m : Int} (hds : Spells cs ds n) (hes : Spells cs es m) :
    ds = es := by
  have hfirst := ungroupDigits_eq_some_iff.2 (spells_iff.1 hds).1
  have hsecond := ungroupDigits_eq_some_iff.2 (spells_iff.1 hes).1
  exact Option.some.inj (hfirst.symm.trans hsecond)

/-- Without the blanks around it a text is read as the integer that it spells, unless it has too many
digits. -/
theorem readInteger?_eq_some_iff {s : String} {n : Int} :
    readInteger? s = some n ↔
      ∃ digits, Spells (stripWhile isNumberBlank s.toList) digits n ∧ digits.length ≤ maxIntegerDigits := by
  simp only [spells_iff, ← ungroupDigits_eq_some_iff]
  unfold readInteger?
  -- What counts is the sign and the characters after it, however they came about.
  generalize splitSign (stripWhile isNumberBlank s.toList) = parts
  obtain ⟨negative, cs⟩ := parts
  dsimp only
  cases hdigits : ungroupDigits cs with
  | none => simp
  | some digits =>
    dsimp only
    by_cases hlong : maxIntegerDigits < digits.length
    · rw [if_pos hlong]
      simp only [reduceCtorEq, false_iff, not_exists]
      rintro _ ⟨⟨heq, -⟩, hshort⟩
      cases heq
      omega
    · rw [if_neg hlong, Option.some.injEq]
      constructor
      · rintro rfl
        exact ⟨digits, ⟨rfl, rfl⟩, Nat.le_of_not_lt hlong⟩
      · rintro ⟨_, ⟨heq, rfl⟩, -⟩
        cases heq
        rfl

theorem readInteger?_strip_eq_some_iff {s : String} {n : Int} :
    readInteger? (strip s) = some n ↔
      ∃ digits, Spells (strip s).toList digits n ∧ digits.length ≤ maxIntegerDigits := by
  have hkept {c : Char} (hc : Unicode.isBlank c = false) : isNumberBlank c = false := by
    simp [isNumberBlank, hc]
  have hends := ends_stripWhile Unicode.isBlank s.toList
  have hstrip : stripWhile isNumberBlank (strip s).toList = (strip s).toList := by
    rw [strip, String.toList_ofList]
    exact stripWhile_of_ends (fun c hc => hkept (hends.1 c hc)) fun c hc => hkept (hends.2 c hc)
  rw [readInteger?_eq_some_iff, hstrip]

/-! ## Runs of digits -/

/-- A text of characters that look like digits denotes an integer exactly when they are decimal
digits and not too many. -/
theorem readInteger?_isSome_iff {s : String} (hne : s ≠ "")
    (h : ∀ c ∈ s.toList, isDigitLike c = true) :
    (readInteger? s).isSome = true ↔
      (∀ c ∈ s.toList, isDecimalDigit c = true) ∧ s.length ≤ maxIntegerDigits := by
  have hcs : s.toList ≠ [] := by
    simpa using hne
  have hstrip : stripWhile isNumberBlank s.toList = s.toList :=
    stripWhile_of_forall fun c hc => (Unicode.ne_of_isDigitLike (h c hc)).1
  have hsign : splitSign s.toList = (false, s.toList) := by
    cases hchars : s.toList with
    | nil => rfl
    | cons c cs =>
      have hc := Unicode.ne_of_isDigitLike (h c (by rw [hchars]; exact List.mem_cons_self))
      unfold splitSign
      split <;> simp_all
  have hdigits := ungroupDigits_isSome hcs fun c hc => (Unicode.ne_of_isDigitLike (h c hc)).2.2.2
  simp only [Option.isSome_iff_exists, readInteger?_eq_some_iff, hstrip, spells_iff, hsign,
    ← ungroupDigits_eq_some_iff, hdigits, ← List.all_eq_true, ← String.length_toList]
  by_cases hall : s.toList.all isDecimalDigit = true
  · rw [if_pos hall]
    constructor
    · rintro ⟨n, digits, ⟨hsome, -⟩, hlength⟩
      cases hsome
      exact ⟨hall, hlength⟩
    · rintro ⟨-, hlength⟩
      exact ⟨_, s.toList, ⟨rfl, rfl⟩, hlength⟩
  · rw [if_neg hall]
    constructor
    · rintro ⟨n, digits, ⟨hsome, -⟩, -⟩
      cases hsome
    · rintro ⟨hforall, -⟩
      exact absurd hforall hall

section Signed

variable (negative : Bool) {digits : List Char} (hne : digits ≠ [])
  (hdigits : ∀ c ∈ digits, c.isDigit = true)

include hne hdigits

theorem splitSign_digits :
    splitSign ((if negative then ['-'] else []) ++ digits) = (negative, digits) := by
  cases negative with
  | true => rfl
  | false =>
    obtain ⟨c, cs, rfl⟩ := List.exists_cons_of_ne_nil hne
    have hdigit := hdigits c List.mem_cons_self
    show splitSign (c :: cs) = (false, c :: cs)
    unfold splitSign
    split
    · next heq =>
      obtain ⟨rfl, -⟩ := List.cons.inj heq
      cases hdigit
    · next heq =>
      obtain ⟨rfl, -⟩ := List.cons.inj heq
      cases hdigit
    · rfl

/-- A minus sign and digits denote the positional value of the digits, below zero. -/
theorem readInteger?_signed (hlength : digits.length ≤ maxIntegerDigits) :
    readInteger? (String.ofList ((if negative then ['-'] else []) ++ digits)) =
      some (if negative then -(readDigits digits : Int) else readDigits digits) := by
  have hlike {c : Char} (hc : c ∈ digits) : isDigitLike c = true := by
    simp [isDigitLike, Unicode.isDecimalDigit_of_isDigit (hdigits c hc)]
  have hblank : ∀ c ∈ (if negative then ['-'] else []) ++ digits, isNumberBlank c = false := by
    intro c hc
    rcases List.mem_append.1 hc with hminus | hc
    · cases negative with
      | true =>
        rw [List.mem_singleton.1 hminus]
        decide
      | false => cases hminus
    · exact (Unicode.ne_of_isDigitLike (hlike hc)).1
  have hgroup : Grouped digits digits := by
    have hone : ∀ g ∈ [digits], g ≠ [] ∧ ∀ c ∈ g, isDecimalDigit c = true := by
      intro g hg
      rw [List.mem_singleton.1 hg]
      exact ⟨hne, fun c hc => Unicode.isDecimalDigit_of_isDigit (hdigits c hc)⟩
    simpa using Grouped.groups (List.cons_ne_nil _ _) hone
  rw [readInteger?_eq_some_iff, String.toList_ofList, stripWhile_of_forall hblank]
  refine ⟨digits, ?_, hlength⟩
  cases negative with
  | false => exact .unsigned hgroup
  | true => exact .minus hgroup

end Signed

theorem readInteger?_digitsOf {n : Nat} (h : (digitsOf n).length ≤ maxIntegerDigits) :
    readInteger? (String.ofList (digitsOf n)) = some (n : Int) := by
  have hread := readInteger?_signed false (digitsOf_ne_nil n) (fun _ hc => isDigit_of_mem_digitsOf hc) h
  simpa [readDigits_digitsOf] using hread

end Text
end ReceiptTemplate
