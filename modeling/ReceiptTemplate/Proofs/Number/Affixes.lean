import ReceiptTemplate.Proofs.Number.ShownValue

/-!
# Affixes — the text around a number part

The quotes of a pattern are taken away from the whole text, after the number was put between its affixes.
A prefix that was read from a pattern closes all of its quotes, and a number part has none, so that each
part of the text loses its own quotes only.

A pattern without line breaks is made up of its affixes and number parts, and a sign that scales stands in
an affix: the scale of such a pattern can be told from its text.
-/

namespace ReceiptTemplate
namespace NumberPattern

open Decimal (Limits)

variable {p : NumberPattern} {l : Limits} {s : NumberSymbols} {d m : Decimal} {cs ds number : List Char}

/-! ## Quotes -/

theorem unquote_nil : unquote [] = [] := by
  rw [unquote]

theorem unquote_cons_of_ne {c : Char} (h : c ≠ '\'') (cs : List Char) :
    unquote (c :: cs) = c :: unquote cs := by
  rw [unquote, if_neg h]

/-- Quotes that are closed; two in a row stand for one. -/
theorem unquote_quoted {quoted : List Char} (h : '\'' ∉ quoted) (cs : List Char) :
    unquote ('\'' :: (quoted ++ '\'' :: cs))
      = (if quoted.isEmpty then ['\''] else quoted) ++ unquote cs := by
  have hbreak : Text.breakOn ['\''] (quoted ++ '\'' :: cs) = some (quoted, cs) :=
    Text.breakOn_append_of_not_mem h cs
  rw [unquote, if_pos rfl]
  split <;> simp_all

/-- A text in which every quote is closed. -/
def Closed (cs : List Char) : Prop :=
  ∀ rest, unquote (cs ++ rest) = unquote cs ++ unquote rest

theorem closed_nil : Closed [] := by
  intro rest
  rw [List.nil_append, unquote_nil, List.nil_append]

theorem Closed.cons {c : Char} (hc : c ≠ '\'') (h : Closed cs) : Closed (c :: cs) := by
  intro rest
  rw [List.cons_append, unquote_cons_of_ne hc, unquote_cons_of_ne hc, h rest, List.cons_append]

theorem Closed.quoted {quoted : List Char} (hquoted : '\'' ∉ quoted) (h : Closed cs) :
    Closed ('\'' :: (quoted ++ '\'' :: cs)) := by
  intro rest
  rw [unquote_quoted hquoted]
  simp only [List.cons_append, List.append_assoc]
  rw [unquote_quoted hquoted, h rest]

theorem closed_of_not_mem (h : '\'' ∉ cs) : Closed cs := by
  induction cs with
  | nil => exact closed_nil
  | cons c cs ih =>
    rw [List.mem_cons, not_or] at h
    exact (ih h.2).cons fun heq => h.1 heq.symm

theorem not_mem_before_breakOn {quoted rest : List Char}
    (h : Text.breakOn ['\''] cs = some (quoted, rest)) : '\'' ∉ quoted := by
  induction cs generalizing quoted with
  | nil => simp [Text.breakOn] at h
  | cons c cs ih =>
    rw [Text.breakOn] at h
    split at h
    · cases h
      simp
    · next hprefix =>
      obtain ⟨⟨before, after⟩, hbreak, hpair⟩ := Option.map_eq_some_iff.1 h
      cases hpair
      have hc : c ≠ '\'' := by
        rintro rfl
        simp at hprefix
      rw [List.mem_cons, not_or]
      exact ⟨hc.symm, ih hbreak⟩

/-- The prefix of a pattern closes its quotes, and what is left is all that follows it. -/
theorem readBefore_spec (cs : List Char) :
    Closed (readBefore cs).1 ∧ (readBefore cs).1 ++ (readBefore cs).2 = cs := by
  fun_induction readBefore cs with
  | case1 => exact ⟨closed_nil, rfl⟩
  | case2 tail quoted rest hbreak more rest' hmore ih =>
    have hquoted := not_mem_before_breakOn hbreak
    have htail := Text.append_of_breakOn hbreak
    rw [hmore] at ih
    refine ⟨ih.1.quoted hquoted, ?_⟩
    rw [htail, ← ih.2]
    simp
  | case3 => exact ⟨closed_nil, rfl⟩
  | case4 c tail hc hprefix more rest hmore ih =>
    rw [hmore] at ih
    exact ⟨ih.1.cons hc, congrArg (c :: ·) ih.2⟩
  | case5 => exact ⟨closed_nil, rfl⟩

/-- The prefixes of a pattern close their quotes. -/
structure ClosedAffixes (p : NumberPattern) : Prop where
  positive : Closed p.positive.before
  negative : Closed p.negative.before

theorem closedAffixes_of_read? {text : String} (h : read? text = some p) : p.ClosedAffixes := by
  unfold read? at h
  dsimp only at h
  split at h
  · cases h
  · cases h
    have hpositive := (readBefore_spec (text.toList.takeWhile (· != ';'))).1
    refine ⟨hpositive, ?_⟩
    dsimp only
    split
    · exact (readBefore_spec _).1
    · exact hpositive.cons (by decide)

/-! ## Number parts have no quotes -/

theorem Shows.quote_not_mem {least : Nat} {chars whole fraction : List Char} {x : ℚ} (hs : s.Distinct)
    (h : Shows p least s chars x whole fraction) : '\'' ∉ chars := by
  rw [h.chars_eq]
  exact not_mem_pointText hs h.digits ⟨by decide, hs.group.2.2.symm, hs.decimal.2.2.symm⟩ least

theorem quote_not_mem_exponentChars (hs : s.Distinct) (hm : Marked s) (form : ExponentForm) (e : ℤ) :
    '\'' ∉ p.exponentChars s form e := by
  have hdigits : ∀ c ∈ Text.digitsOf e.natAbs ++ [], c.isDigit = true := by
    intro c hc
    rw [List.append_nil] at hc
    exact Text.isDigit_of_mem_digitsOf hc
  have hwhole : '\'' ∉ p.pointText form.digits.least s (Text.digitsOf e.natAbs) [] :=
    not_mem_pointText hs hdigits ⟨by decide, hs.group.2.2.symm, hs.decimal.2.2.symm⟩ form.digits.least
  rw [pointText, List.isEmpty_nil, if_pos rfl, List.append_nil] at hwhole
  unfold exponentChars
  rw [List.mem_append, not_or]
  refine ⟨?_, hwhole⟩
  split
  · exact hm.minus.2.1
  · split
    · exact hm.plus.2.1
    · simp

theorem quote_not_mem_numberPart (hs : s.Distinct) (hm : Marked s)
    (h : p.numberPart l s m = .ok number) : '\'' ∉ number := by
  unfold numberPart at h
  split at h
  · next form _ =>
    rw [scientificChars_eq] at h
    cases hfixed : p.fixedChars l s (p.mantissaPlaces (m.leadingAt p.lead)) (m.leadingAt p.lead) with
    | error fault =>
      rw [hfixed] at h
      cases h
    | ok part =>
      obtain ⟨whole, fraction, hshows⟩ := shows_fixedChars hfixed
      rw [hfixed] at h
      cases h
      rw [List.mem_append, List.mem_append, not_or, not_or]
      exact ⟨hshows.quote_not_mem hs, hm.exponential.2.1, quote_not_mem_exponentChars hs hm form _⟩
  · split at h
    · obtain ⟨whole, fraction, hshows⟩ := shows_significantChars h
      exact hshows.quote_not_mem hs
    · obtain ⟨whole, fraction, hshows⟩ := shows_fixedChars h
      exact hshows.quote_not_mem hs

end NumberPattern

/-! ## Whole texts -/

/-- A number part between affixes without their quotes. -/
def Affixes.around (a : Affixes) (number : List Char) : String :=
  String.ofList (NumberPattern.unquote a.before ++ (number ++ NumberPattern.unquote a.after))

namespace NumberPattern

open Decimal (Limits)

variable {p : NumberPattern} {l : Limits} {s : NumberSymbols} {d : Decimal} {text : String}

theorem abs_toRat_magnitude (p : NumberPattern) (d : Decimal) :
    |(p.magnitude d).toRat| = |d.toRat| * 10 ^ p.scale := by
  rw [magnitude, Decimal.toRat_normalize, Decimal.abs_toRat, Decimal.abs_toRat, ← zpow_natCast,
    mul_assoc, ← ten_zpow_add]
  rfl

/-- A text is a number part between the affixes for the sign of the number. -/
theorem text_of_format (hs : s.Distinct) (hm : Marked s) (hp : p.ClosedAffixes)
    (h : p.format l s d = .ok text) : ∃ number,
      text = (if d.negative then p.negative else p.positive).around
        (if p.hasNumber then number else []) ∧
      denoted? s number = some (p.shown (|d.toRat| * 10 ^ p.scale)) := by
  have hformat : (p.numberPart l s (p.magnitude d)).map (fun number => String.ofList (unquote
      ((if d.negative then p.negative else p.positive).before ++ (if p.hasNumber then number else []) ++
        (if d.negative then p.negative else p.positive).after))) = .ok text := by
    unfold format at h
    dsimp only at h
    split at h
    · cases h
    · exact h
  obtain ⟨number, hnumber, htext⟩ : ∃ number, p.numberPart l s (p.magnitude d) = .ok number ∧
      String.ofList (unquote ((if d.negative then p.negative else p.positive).before ++
        (if p.hasNumber then number else []) ++
        (if d.negative then p.negative else p.positive).after)) = text := by
    cases hpart : p.numberPart l s (p.magnitude d) with
    | error fault =>
      rw [hpart] at hformat
      cases hformat
    | ok number =>
      rw [hpart] at hformat
      exact ⟨number, rfl, Except.ok.inj hformat⟩
  have hbefore : Closed (if d.negative then p.negative else p.positive).before := by
    split
    · exact hp.negative
    · exact hp.positive
  have hquote : '\'' ∉ (if p.hasNumber then number else []) := by
    split
    · exact quote_not_mem_numberPart hs hm hnumber
    · simp
  refine ⟨number, ?_, ?_⟩
  · rw [← htext, List.append_assoc, hbefore, closed_of_not_mem hquote, unquote_of_not_mem hquote]
    rfl
  · rw [denoted?_numberPart hs hm hnumber, abs_toRat_magnitude]

/-! ## Scales -/

theorem isNumberChar_of_isScale {c : Char} (h : c = '%' ∨ c = '‰') : isNumberChar c = false := by
  rcases h with rfl | rfl <;> decide

/-- On one line every character of a pattern that is none of a number stands in an affix. -/
theorem mem_readParts_iff {cs : List Char} {c : Char} (hline : '\n' ∉ cs) (hc : isNumberChar c = false) :
    c ∈ cs ↔ c ∈ (readParts cs).1.before ∨ c ∈ (readParts cs).1.after := by
  have hsplit := (readBefore_spec cs).2
  have hrest : (readBefore cs).2.takeWhile isNumberChar ++ (readBefore cs).2.dropWhile isNumberChar
      = (readBefore cs).2 := List.takeWhile_append_dropWhile
  have hline' : ∀ x ∈ (readBefore cs).2.dropWhile isNumberChar, (x != '\n') = true := by
    intro x hx
    rw [bne_iff_ne]
    rintro rfl
    apply hline
    rw [← hsplit]
    exact List.mem_append_right _ ((List.dropWhile_sublist isNumberChar).subset hx)
  have hafter : (readParts cs).1.after = (readBefore cs).2.dropWhile isNumberChar :=
    List.takeWhile_eq_self_iff.2 hline'
  have hnumber : c ∉ (readBefore cs).2.takeWhile isNumberChar := by
    intro hmem
    rw [List.mem_takeWhile_imp hmem] at hc
    cases hc
  have hbefore : (readParts cs).1.before = (readBefore cs).1 := rfl
  rw [hafter, hbefore]
  conv_lhs => rw [← hsplit, ← hrest]
  rw [List.mem_append, List.mem_append, or_iff_right hnumber]

/-- Another character than the semicolon stands before it or after it. -/
theorem mem_cut_iff (cs : List Char) {c : Char} (hc : c ≠ ';') :
    c ∈ cs ↔ c ∈ cs.takeWhile (· != ';') ∨ c ∈ (cs.dropWhile (· != ';')).drop 1 := by
  have hsplit : cs.takeWhile (· != ';') ++ cs.dropWhile (· != ';') = cs :=
    List.takeWhile_append_dropWhile
  have hcut : c ∈ cs.dropWhile (· != ';') ↔ c ∈ (cs.dropWhile (· != ';')).drop 1 := by
    cases hrest : cs.dropWhile (· != ';') with
    | nil => simp
    | cons x rest =>
      have hx : x = ';' := by
        have hhead := List.head?_dropWhile_not (fun c => c != ';') cs
        rw [hrest] at hhead
        simpa using hhead
      rw [hx, List.mem_cons, or_iff_right hc]
      rfl
  rw [← hcut, ← List.mem_append, hsplit]

/-- On one line a sign that scales stands in an affix. -/
theorem mem_affixes_iff {c : Char} (hline : '\n' ∉ text.toList) (hc : c = '%' ∨ c = '‰')
    (h : read? text = some p) : c ∈ text.toList ↔
      c ∈ p.positive.before ++ p.negative.before ++ p.positive.after ++ p.negative.after := by
  have hnumber := isNumberChar_of_isScale hc
  have hsemicolon : c ≠ ';' := by
    rcases hc with rfl | rfl <;> decide
  have hhyphen : c ≠ '-' := by
    rcases hc with rfl | rfl <;> decide
  unfold read? at h
  dsimp only at h
  split at h
  · cases h
  cases h
  dsimp only
  have hfirst : '\n' ∉ text.toList.takeWhile (· != ';') :=
    fun hmem => hline ((List.takeWhile_sublist _).subset hmem)
  have hpositive := mem_readParts_iff hfirst hnumber
  have hsides := mem_cut_iff text.toList hsemicolon
  simp only [List.mem_append]
  cases hnegative : text.toList.contains ';' with
  | false =>
    -- Without a second part the affixes are used once more, after a hyphen.
    have hnone : (text.toList.dropWhile (· != ';')).drop 1 = [] := by
      have hrest : text.toList.dropWhile (· != ';') = [] := by
        rw [List.dropWhile_eq_nil_iff]
        intro x hx
        rw [bne_iff_ne]
        rintro rfl
        rw [List.contains_iff_mem.2 hx] at hnegative
        cases hnegative
      rw [hrest, List.drop_nil]
    rw [hnone, or_iff_left List.not_mem_nil] at hsides
    rw [hsides, hpositive, if_neg Bool.false_ne_true, List.mem_cons, or_iff_right hhyphen, or_self,
      or_assoc, or_self]
  | true =>
    have hsecond : '\n' ∉ (text.toList.dropWhile (· != ';')).drop 1 :=
      fun hmem => hline ((List.dropWhile_sublist _).subset (List.mem_of_mem_drop hmem))
    rw [hsides, hpositive, mem_readParts_iff hsecond hnumber, if_pos rfl, or_or_or_comm, ← or_assoc]

/-- On one line the scale of a pattern can be told from its text. -/
theorem scale_eq (hline : '\n' ∉ text.toList) (h : read? text = some p) :
    p.scale = if text.toList.contains '%' then 2 else if text.toList.contains '‰' then 3 else 0 := by
  have hpercent := mem_affixes_iff hline (.inl rfl) h
  have hmille := mem_affixes_iff hline (.inr rfl) h
  unfold scale
  simp only [List.contains_iff_mem, hpercent, hmille]

end NumberPattern
end ReceiptTemplate
