import ReceiptTemplate.Proofs.Expr.Word

/-!
# Call texts — how filter calls are written

The name of the filter comes first, then its argument after a colon, then the named arguments and
flags, each after a blank.  Argument texts stand in double quotes.  A call is read back as it was
written wherever no name follows that would count as a further flag.
-/

namespace ReceiptTemplate
namespace FilterCall

open Unicode (isBlank)
open Token (EndsWord quotedChars)

/-! ## Written calls -/

def isArgumentName : List Char → Bool
  | [] => false
  | c :: cs => isArgumentStart c && cs.all isNameChar

/-- An argument text after its colon; a flag has none. -/
def argumentChars : Option String → List Char
  | none => []
  | some s => ':' :: quotedChars s

def namedChars (p : String × Option String) : List Char :=
  ' ' :: (p.1.toList ++ argumentChars p.2)

def chars (call : FilterCall) : List Char :=
  call.name.toList ++ (argumentChars call.argument ++ call.named.flatMap namedChars)

/-- The names in a call are names of filters and of arguments. -/
structure WellNamed (call : FilterCall) : Prop where
  name : isValidName call.name.toList = true
  named : ∀ p ∈ call.named, isArgumentName p.1.toList = true

/-- What follows a call and does not continue it. -/
structure EndsCall (rest : List Char) : Prop where
  endsWord : EndsWord rest
  noName : ∀ c ∈ (rest.dropWhile isBlank).head?, isArgumentStart c = false

/-! ## Names in calls -/

theorem isBlank_of_isArgumentStart {c : Char} (h : isArgumentStart c = true) :
    isBlank c = false := by
  apply Token.isBlank_of_isNameChar
  apply Token.isNameChar_of_isNameStart
  simp only [isArgumentStart, Token.isNameStart, Bool.or_eq_true] at h ⊢
  tauto

/-- What may follow a name inside a call: it is not continued. -/
def StopsName (rest : List Char) : Prop :=
  ∀ c ∈ rest.head?, isNameChar c = false

theorem stopsName_of_endsWord {rest : List Char} (h : EndsWord rest) : StopsName rest := by
  intro c hc
  rcases h c hc with rfl | rfl | rfl <;> decide

theorem stopsName_argument (argument : Option String) {rest : List Char} (h : EndsWord rest) :
    StopsName (argumentChars argument ++ rest) := by
  cases argument with
  | none => exact stopsName_of_endsWord h
  | some s =>
    simp [StopsName, argumentChars]
    decide

theorem endsWord_named (named : List (String × Option String)) {rest : List Char}
    (h : EndsWord rest) : EndsWord (named.flatMap namedChars ++ rest) := by
  cases named with
  | nil => exact h
  | cons p ps => exact Token.endsWord_cons (.inl rfl) _

theorem ne_colon_of_endsWord {rest : List Char} (h : EndsWord rest) (value : List Char) :
    rest ≠ ':' :: value := by
  rintro rfl
  have hcolon : ':' = ' ' ∨ ':' = ')' ∨ ':' = ']' := h ':' (by simp)
  simp at hcolon

theorem span_name {cs rest : List Char} (hcs : ∀ c ∈ cs, isNameChar c = true)
    (h : StopsName rest) :
    (cs ++ rest).takeWhile isNameChar = cs ∧ (cs ++ rest).dropWhile isNameChar = rest :=
  Text.span_run hcs h

/-! ## Reading calls -/

theorem readArgument_quoted (s : String) (rest : List Char) :
    readArgument (quotedChars s ++ rest) = .ok (s, rest) := by
  have hquote : isBlank '"' = false := by decide
  have hbody := Token.quotedBody_escape s.toList rest
  simp [readArgument, quotedChars, hquote, hbody]

theorem readNamed_of_no_name {cs : List Char}
    (h : ∀ c ∈ (cs.dropWhile isBlank).head?, isArgumentStart c = false) :
    readNamed cs = .ok ([], cs) := by
  rw [readNamed]
  split <;> simp_all

section

variable {cs tail : List Char} {c : Char}

theorem readNamed_value {value rest : List Char} {argument : String}
    (hb : cs.dropWhile isBlank = c :: tail) (hc : isArgumentStart c = true)
    (hr : tail.dropWhile isNameChar = ':' :: value)
    (ha : readArgument value = .ok (argument, rest)) :
    readNamed cs = (readNamed rest).map fun p =>
      ((String.ofList (c :: tail.takeWhile isNameChar), some argument) :: p.1, p.2) := by
  rw [readNamed]
  split
  · simp_all
  · -- The name is there, so the colon after it decides between a value and a flag.
    next c' tail' hb' =>
    rw [hb, List.cons.injEq] at hb'
    rcases hb' with ⟨rfl, rfl⟩
    rw [if_pos hc]
    split
    · next value' hr' =>
      rw [hr, List.cons.injEq] at hr'
      rcases hr' with ⟨-, rfl⟩
      split <;> simp_all
    · next hr' => exact absurd hr (hr' value)

theorem readNamed_flag (hb : cs.dropWhile isBlank = c :: tail) (hc : isArgumentStart c = true)
    (hr : ∀ value, tail.dropWhile isNameChar ≠ ':' :: value) :
    readNamed cs = (readNamed (tail.dropWhile isNameChar)).map fun p =>
      ((String.ofList (c :: tail.takeWhile isNameChar), none) :: p.1, p.2) := by
  rw [readNamed]
  split
  · simp_all
  · next c' tail' hb' =>
    rw [hb, List.cons.injEq] at hb'
    rcases hb' with ⟨rfl, rfl⟩
    rw [if_pos hc]
    split
    · next value hr' => exact absurd hr' (hr value)
    · rfl

end

theorem readNamed_append {named : List (String × Option String)}
    (hnamed : ∀ p ∈ named, isArgumentName p.1.toList = true) {rest : List Char}
    (h : EndsCall rest) : readNamed (named.flatMap namedChars ++ rest) = .ok (named, rest) := by
  induction named with
  | nil => exact readNamed_of_no_name h.noName
  | cons p ps ih =>
    rcases p with ⟨name, argument⟩
    have hps := ih fun q hq => hnamed q (List.mem_cons_of_mem _ hq)
    have hname := hnamed _ List.mem_cons_self
    have hmore := endsWord_named ps h.endsWord
    cases hchars : name.toList with
    | nil =>
      rw [hchars] at hname
      exact absurd hname (by decide)
    | cons c cs =>
      rw [hchars] at hname
      simp only [isArgumentName, Bool.and_eq_true, List.all_eq_true] at hname
      have hofList : String.ofList (c :: cs) = name := by
        rw [← hchars, String.ofList_toList]
      rcases span_name hname.2 (stopsName_argument argument hmore) with ⟨htake, hdrop⟩
      have hblank : (((name, argument) :: ps).flatMap namedChars ++ rest).dropWhile isBlank
          = c :: (cs ++ (argumentChars argument ++ (ps.flatMap namedChars ++ rest))) := by
        have hspace : isBlank ' ' = true := by decide
        simp [namedChars, hchars, hspace, isBlank_of_isArgumentStart hname.1]
      cases argument with
      | none =>
        -- A flag ends at the blank before the next name.
        simp only [argumentChars, List.nil_append] at htake hdrop hblank
        have hcolon : ∀ value, (cs ++ (ps.flatMap namedChars ++ rest)).dropWhile isNameChar
            ≠ ':' :: value := by
          rw [hdrop]
          exact ne_colon_of_endsWord hmore
        rw [readNamed_flag hblank hname.1 hcolon, htake, hdrop, hps, hofList]
        rfl
      | some s =>
        -- The value is read from its quotes, and the names after it are what is left.
        have hvalue := readArgument_quoted s (ps.flatMap namedChars ++ rest)
        rw [readNamed_value hblank hname.1 hdrop hvalue, htake, hps, hofList]
        rfl

theorem readName_append {name : String} (hname : isValidName name.toList = true)
    {rest : List Char} (h : StopsName rest) :
    readName (' ' :: (name.toList ++ rest)) = .ok (name.toList, rest) := by
  cases hchars : name.toList with
  | nil =>
    rw [hchars] at hname
    exact absurd hname (by decide)
  | cons c cs =>
    rw [hchars] at hname
    -- A filter name is a run of name characters, and no blank stands at its head.
    have hall : ∀ d ∈ c :: cs, isNameChar d = true := by
      simp only [isValidName, Bool.and_eq_true, List.all_eq_true] at hname
      intro d hd
      rcases List.mem_cons.1 hd with rfl | hd
      · simp [isNameChar, Char.isAlphanum, hname.1]
      · simp [isNameChar, hname.2 d hd]
    have hblank : isBlank c = false := by
      apply isBlank_of_isArgumentStart
      simp only [isValidName, Bool.and_eq_true] at hname
      simp [isArgumentStart, hname.1]
    rcases span_name hall h with ⟨htake, hdrop⟩
    have hspace : isBlank ' ' = true := by decide
    have hstart : (' ' :: (c :: cs ++ rest)).dropWhile isBlank = c :: cs ++ rest := by
      simp [hspace, hblank]
    unfold readName
    simp only [hstart, htake, hdrop, hname]
    rfl

/-- A written call is read back. -/
theorem read_chars {call : FilterCall} (hcall : call.WellNamed) {rest : List Char}
    (h : EndsCall rest) : read (' ' :: (call.chars ++ rest)) = .ok (call, rest) := by
  rcases call with ⟨name, argument, named⟩
  have hnamed := readNamed_append hcall.named h
  have hmore := endsWord_named named h.endsWord
  have hname := readName_append hcall.name (stopsName_argument argument hmore)
  have hchars : chars ⟨name, argument, named⟩ ++ rest
      = name.toList ++ (argumentChars argument ++ (named.flatMap namedChars ++ rest)) := by
    simp [chars]
  rw [hchars]
  unfold read
  rw [hname]
  cases argument with
  | none =>
    -- Without an argument the names follow, and they start with no colon.
    have hcolon := ne_colon_of_endsWord hmore
    simp [argumentChars, hnamed, Except.map, String.ofList_toList]
  | some s =>
    have hvalue := readArgument_quoted s (named.flatMap namedChars ++ rest)
    simp [argumentChars, hvalue, hnamed, Except.map, String.ofList_toList]

end FilterCall
end ReceiptTemplate
