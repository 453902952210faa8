import Mathlib.Data.List.TakeWhile
import ReceiptTemplate.Proofs.Expr.BarePath
import ReceiptTemplate.Proofs.Expr.CallText

/-!
# Text after — reading over a text with more text after it

A name, a number, a path or a symbol that was read over a text is read as before when a blank or a
closing bracket, and then anything, stands after the text; what follows is left behind.  One case
has to be set apart: a closing bracket in the text that follows may close an index that is still
open.
-/

namespace ReceiptTemplate

open Unicode (isBlank isDecimalDigit)

/-- What was read, with more text left behind. -/
def leaving {α : Type} (ws : List Char) (p : α × List Char) : α × List Char :=
  (p.1, p.2 ++ ws)

/-- A run of characters ends where the text after it begins. -/
theorem span_leaving {p : Char → Bool} {ws : List Char} (h : ∀ c ∈ ws.head?, p c = false)
    (cs : List Char) :
    (cs ++ ws).takeWhile p = cs.takeWhile p ∧ (cs ++ ws).dropWhile p = cs.dropWhile p ++ ws := by
  induction cs with
  | nil => exact Text.span_run (by simp) h
  | cons c cs ih =>
    by_cases hc : p c = true
    · simp [hc, ih]
    · simp [hc]

/-! ## Blanks are no part of a token -/

namespace Token

theorem isNameChar_of_isBlank {c : Char} (h : isBlank c = true) : isNameChar c = false := by
  rw [Bool.eq_false_iff]
  intro hname
  rw [isBlank_of_isNameChar hname] at h
  cases h

theorem isNameStart_of_isBlank {c : Char} (h : isBlank c = true) : isNameStart c = false := by
  rw [Bool.eq_false_iff]
  intro hstart
  rw [isBlank_of_isNameChar (isNameChar_of_isNameStart hstart)] at h
  cases h

theorem isDecimalDigit_of_isBlank {c : Char} (h : isBlank c = true) : isDecimalDigit c = false := by
  rw [Bool.eq_false_iff]
  intro hdigit
  rw [Unicode.isBlank_of_isDecimalDigit hdigit] at h
  cases h

/-! ## Texts that stop a token -/

/-- What goes on with no token before it: the end, or a text that starts with a blank or a closing
bracket. -/
def Stops (ws : List Char) : Prop :=
  ∀ c ∈ ws.head?, isBlank c = true ∨ c = ')' ∨ c = ']'

theorem EndsWord.stops {ws : List Char} (h : EndsWord ws) : Stops ws := by
  intro c hc
  rcases h c hc with rfl | hbracket
  · exact .inl (by decide)
  · exact .inr hbracket

namespace Stops

variable {ws : List Char}

/-- A class of characters without blanks and closing brackets does not go on. -/
theorem not_of_class (h : Stops ws) {p : Char → Bool} (hblank : ∀ c, isBlank c = true → p c = false)
    (hparen : p ')' = false) (hbracket : p ']' = false) : ∀ c ∈ ws.head?, p c = false := by
  intro c hc
  rcases h c hc with hb | rfl | rfl
  · exact hblank c hb
  · exact hparen
  · exact hbracket

theorem not_isNameChar (h : Stops ws) : ∀ c ∈ ws.head?, isNameChar c = false :=
  h.not_of_class (fun _ => isNameChar_of_isBlank) (by decide) (by decide)

theorem not_isNameStart (h : Stops ws) : ∀ c ∈ ws.head?, isNameStart c = false :=
  h.not_of_class (fun _ => isNameStart_of_isBlank) (by decide) (by decide)

theorem not_isDecimalDigit (h : Stops ws) : ∀ c ∈ ws.head?, isDecimalDigit c = false :=
  h.not_of_class (fun _ => isDecimalDigit_of_isBlank) (by decide) (by decide)

theorem ne (h : Stops ws) {c d : Char} (hd : d ∈ ws.head?) (hblank : isBlank c = false)
    (hparen : c ≠ ')') (hbracket : c ≠ ']') : d ≠ c := by
  rintro rfl
  rcases h d hd with hb | rfl | rfl
  · rw [hb] at hblank
    cases hblank
  · exact hparen rfl
  · exact hbracket rfl

theorem stopsName (h : Stops ws) : StopsName ws := by
  intro c hc
  exact ⟨h.not_isNameChar c hc, h.ne hc (by decide) (by decide) (by decide)⟩

theorem stopsNumber (h : Stops ws) : StopsNumber ws := by
  intro c hc
  exact ⟨h.not_isDecimalDigit c hc, h.ne hc (by decide) (by decide) (by decide)⟩

/-- Any other character stands in the text before. -/
theorem eq_cons (h : Stops ws) {cs rest : List Char} {c : Char} (hblank : isBlank c = false)
    (hparen : c ≠ ')') (hbracket : c ≠ ']') (heq : cs ++ ws = c :: rest) :
    ∃ tail, cs = c :: tail ∧ tail ++ ws = rest := by
  cases cs with
  | nil =>
    have hc : c ∈ ws.head? := by
      rw [← List.nil_append ws, heq]
      rfl
    exact absurd rfl (h.ne hc hblank hparen hbracket)
  | cons d tail =>
    rcases List.cons.inj heq with ⟨rfl, hrest⟩
    exact ⟨tail, rfl, hrest⟩

end Stops

variable {ws : List Char}

/-! ## Names and paths -/

theorem nameBody_cons {c : Char} (hc : c ≠ '-') (cs : List Char) :
    nameBody (c :: cs) =
      if isNameChar c then (c :: (nameBody cs).1, (nameBody cs).2) else ([], c :: cs) := by
  conv_lhs => unfold nameBody
  split <;> simp_all

theorem nameBody_leaving (hws : Stops ws) (cs : List Char) :
    nameBody (cs ++ ws) = leaving ws (nameBody cs) := by
  -- A hyphen belongs to the name only before another name character, which does not follow.
  have hhyphen {c : Char} {cs : List Char} (hnil : c = '-' → ¬cs = [])
      (hcons : ∀ d ds, c = '-' → ¬cs = d :: ds) : c ≠ '-' := by
    rintro rfl
    cases cs with
    | nil => exact hnil rfl rfl
    | cons d ds => exact hcons d ds rfl rfl
  fun_induction nameBody cs with
  | case1 => exact nameBody_append_of_stopsName rfl hws.stopsName
  | case2 =>
    cases ws with
    | nil => rfl
    | cons c cs => simp [nameBody, leaving, hws.not_isNameChar c rfl]
  | case3 c cs hc name rest hbody ih => simp_all [nameBody, leaving]
  | case4 c cs hc => simp [nameBody, leaving, hc]
  | case5 c cs hnil hcons hc name rest hbody ih =>
    rw [List.cons_append, nameBody_cons (hhyphen hnil hcons), if_pos hc, ih, hbody]
    rfl
  | case6 c cs hnil hcons hc =>
    rw [List.cons_append, nameBody_cons (hhyphen hnil hcons), if_neg hc]
    rfl

/-- A bracket with digits only after it: an index that is not closed. -/
def OpensIndex (cs : List Char) : Prop :=
  ∃ digits, digits ≠ [] ∧ (∀ d ∈ digits, isDecimalDigit d = true) ∧ cs = '[' :: digits

theorem bracketIndex?_leaving (hws : Stops ws) {cs : List Char}
    (hopen : ']' ∈ ws.head? → ¬OpensIndex ('[' :: cs)) :
    bracketIndex? (cs ++ ws) = (bracketIndex? cs).map (leaving ws) := by
  rcases span_leaving hws.not_isDecimalDigit cs with ⟨htake, hdrop⟩
  have hsplit := List.takeWhile_append_dropWhile (p := isDecimalDigit) (l := cs)
  have hdigits : ∀ d ∈ cs.takeWhile isDecimalDigit, isDecimalDigit d = true :=
    fun d hd => List.mem_takeWhile_imp hd
  unfold bracketIndex?
  rw [htake, hdrop]
  generalize cs.takeWhile isDecimalDigit = digits at hsplit hdigits ⊢
  generalize cs.dropWhile isDecimalDigit = rest at hsplit ⊢
  cases digits with
  | nil => rfl
  | cons d ds =>
    cases rest with
    | nil =>
      -- All of the text are digits, and no bracket closes them.
      rw [List.append_nil] at hsplit
      have hbracket : ']' ∉ ws.head? := by
        intro hmem
        exact hopen hmem ⟨d :: ds, List.cons_ne_nil d ds, hdigits, by rw [hsplit]⟩
      cases ws with
      | nil => rfl
      | cons c ws =>
        have hc : c ≠ ']' := by
          rintro rfl
          exact hbracket rfl
        simp [hc]
    | cons c rest =>
      by_cases hc : c = ']'
      · subst hc
        rfl
      · simp [hc]

theorem pathTail_leaving (hws : Stops ws) {cs : List Char}
    (hopen : ']' ∈ ws.head? → ¬OpensIndex (pathTail cs).2) :
    pathTail (cs ++ ws) = leaving ws (pathTail cs) := by
  fun_induction pathTail cs with
  | case1 c tail hstart more ih =>
    simp only [List.cons_append]
    rw [pathTail, if_pos hstart, nameBody_leaving hws]
    simp only [leaving, ih hopen, more, List.cons_append]
  | case2 c tail hstart =>
    simp only [List.cons_append]
    rw [pathTail, if_neg hstart]
    rfl
  | case3 tail index rest hindex more ih =>
    -- The index is closed before the end of the text.
    have hclosed : ']' ∈ ws.head? → ¬OpensIndex ('[' :: tail) := by
      rintro - ⟨digits, -, hdigits, heq⟩
      rcases List.cons.inj heq with ⟨-, rfl⟩
      have hdrop : tail.dropWhile isDecimalDigit = [] := List.dropWhile_eq_nil_iff.2 hdigits
      simp [bracketIndex?, hdrop] at hindex
    have hbracket := bracketIndex?_leaving hws hclosed
    rw [hindex] at hbracket
    have hmore := ih hopen
    simp only [List.cons_append]
    rw [pathTail]
    split <;> simp_all [leaving, more]
  | case4 tail hindex =>
    have hbracket := bracketIndex?_leaving hws hopen
    rw [hindex] at hbracket
    simp only [List.cons_append]
    rw [pathTail]
    split <;> simp_all [leaving]
  | case5 cs hdot hbracket =>
    by_cases hcs : cs = ['.']
    · -- The character after the dot starts no name.
      subst hcs
      cases ws with
      | nil => simp [pathTail, leaving]
      | cons c ws =>
        simp only [List.cons_append, List.nil_append]
        rw [pathTail, if_neg (by simp [hws.not_isNameStart c rfl])]
        rfl
    · refine pathTail_of_head ?_
      intro c hc
      cases cs with
      | nil =>
        exact ⟨hws.ne hc (by decide) (by decide) (by decide),
          hws.ne hc (by decide) (by decide) (by decide)⟩
      | cons d tail =>
        cases hc
        refine ⟨?_, ?_⟩
        · rintro rfl
          cases tail with
          | nil => exact hcs rfl
          | cons e tail => exact hdot e tail rfl
        · rintro rfl
          exact hbracket tail rfl

theorem readPath?_leaving (hws : Stops ws) {cs : List Char}
    (hopen : ']' ∈ ws.head? → ∀ p ∈ readPath? cs, ¬OpensIndex p.2) :
    readPath? (cs ++ ws) = (readPath? cs).map (leaving ws) := by
  cases cs with
  | nil =>
    cases ws with
    | nil => rfl
    | cons c ws => simp [readPath?, hws.not_isNameStart c rfl]
  | cons c cs =>
    by_cases hstart : isNameStart c = true
    · have hread : readPath? (c :: cs)
          = some (c :: (nameBody cs).1 ++ (pathTail (nameBody cs).2).1,
            (pathTail (nameBody cs).2).2) := by
        simp [readPath?, hstart]
      have hclosed : ']' ∈ ws.head? → ¬OpensIndex (pathTail (nameBody cs).2).2 := by
        intro hmem
        have hnot := hopen hmem _ hread
        exact hnot
      have htail := pathTail_leaving hws hclosed
      simp [readPath?, hstart, nameBody_leaving hws, htail, leaving]
    · simp [readPath?, hstart]

/-! ## Symbols and numbers -/

theorem readSymbol?_leaving (hws : Stops ws) {cs : List Char} (hcs : cs ≠ []) :
    readSymbol? (cs ++ ws) = (readSymbol? cs).map (leaving ws) := by
  -- A symbol of one character stays one, as no longer symbol is completed.
  have hsecond {c : Char} {cs : List Char} (hblank : isBlank c = false) (hparen : c ≠ ')')
      (hbracket : c ≠ ']') (h : ∀ t, cs = c :: t → False) (t : List Char) : cs ++ ws ≠ c :: t := by
    intro hsplit
    rcases hws.eq_cons hblank hparen hbracket hsplit with ⟨tail, htail, -⟩
    exact h tail htail
  -- The first character is one of the text.
  have hfirst {c : Char} {rest : List Char} (heq : cs ++ ws = c :: rest) :
      ∃ tail, cs = c :: tail ∧ tail ++ ws = rest := by
    cases cs with
    | nil => exact absurd rfl hcs
    | cons d tail =>
      rcases List.cons.inj heq with ⟨rfl, hrest⟩
      exact ⟨tail, rfl, hrest⟩
  fun_cases readSymbol? cs
  case case8 cs h | case9 cs h | case10 cs h | case15 cs h =>
    have hne := hsecond (by decide) (by decide) (by decide) h
    simp [readSymbol?, leaving]
  case case20 c cs hstart => simp [readSymbol?, hstart, leaving]
  case case21 c cs hstart => simp [readSymbol?, hstart]
  case case22 =>
    -- Whatever symbol is read with more text after it is read without it.
    unfold readSymbol?
    split
    case h_21 => rfl
    case h_20 c rest heq =>
      rcases hfirst heq with ⟨tail, rfl, hrest⟩
      by_cases hstart : isNameStart c = true
      · cases tail with
        | nil =>
          rw [List.nil_append] at hrest
          rw [hws.not_isNameStart c (by rw [hrest]; rfl)] at hstart
          cases hstart
        | cons d tail =>
          rcases List.cons.inj hrest with ⟨rfl, -⟩
          exfalso
          solve_by_elim
      · simp [hstart]
    all_goals
      next heq =>
        rcases hfirst heq with ⟨tail, rfl, hrest⟩
        exfalso
        first
        | solve_by_elim
        | rcases hws.eq_cons (by decide) (by decide) (by decide) hrest with ⟨tail', rfl, -⟩
          solve_by_elim
  all_goals rfl

theorem readNumber?_leaving (hws : Stops ws) (cs : List Char) :
    readNumber? (cs ++ ws) = (readNumber? cs).map (leaving ws) := by
  rcases span_leaving hws.not_isDecimalDigit cs with ⟨htake, hdrop⟩
  unfold readNumber?
  rw [htake, hdrop]
  generalize cs.takeWhile isDecimalDigit = whole
  generalize cs.dropWhile isDecimalDigit = rest
  by_cases hwhole : whole.isEmpty = true
  · simp [hwhole]
  · cases rest with
    | nil =>
      cases ws with
      | nil => simp [hwhole, leaving]
      | cons c ws =>
        have hc : c ≠ '.' := (hws.stopsNumber c rfl).2
        simp [hwhole, leaving, hc]
    | cons c tail =>
      by_cases hc : c = '.'
      · subst hc
        rcases span_leaving hws.not_isDecimalDigit tail with ⟨htake, hdrop⟩
        by_cases hfraction : (tail.takeWhile isDecimalDigit).isEmpty = true
        · simp [hwhole, htake, hfraction, leaving]
        · simp [hwhole, htake, hdrop, hfraction, leaving]
      · simp [hwhole, hc, leaving]

end Token
end ReceiptTemplate
