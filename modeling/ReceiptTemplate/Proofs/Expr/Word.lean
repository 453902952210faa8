import ReceiptTemplate.Expr.FilterCall
import ReceiptTemplate.Proofs.Decimal.PlainText
import ReceiptTemplate.Proofs.Expr.PathText

/-!
# Words — tokens as they are written

Each token that carries data has a written form: numbers in plain notation, texts in double quotes
with backslash escapes, paths as their own text.  `Spells` says that a word is read as one token
wherever it is followed by a blank, by a closing bracket or by the end of the source.
-/

namespace ReceiptTemplate

open Unicode (isBlank isDecimalDigit)

namespace Token

/-- A word is read as one token. -/
def Spells (word : List Char) (token : Token) : Prop :=
  ∀ rest, EndsWord rest → Lexeme.next (word ++ rest) = .ok ⟨token, word ++ rest, rest⟩

theorem next_of_read {c : Char} {cs rest : List Char} {token : Token} (hc : isBlank c = false)
    (h : read (c :: cs) = .ok (token, rest)) :
    Lexeme.next (c :: cs) = .ok ⟨token, c :: cs, rest⟩ := by
  simp [Lexeme.next, hc, h]

/-- A blank before a token is skipped. -/
theorem next_blank (cs : List Char) : Lexeme.next (' ' :: cs) = Lexeme.next cs := by
  have hblank : isBlank ' ' = true := by decide
  simp [Lexeme.next, hblank]

/-! ## Characters that start a word -/

/-- The characters with which symbols start. -/
def symbolStarts : List Char :=
  "=!<>&|?+-*/()[].".toList

theorem readSymbol?_of_not_mem {c : Char} (h : c ∉ symbolStarts) (cs : List Char) :
    readSymbol? (c :: cs) = none := by
  unfold readSymbol?
  -- Each symbol that could be read gives away its first character.
  split <;> first
    | rfl
    | next heq =>
      rw [List.cons.injEq] at heq
      rw [heq.1] at h
      exact absurd (by decide) h

/-- A character of a kind that no symbol starts with starts no symbol. -/
theorem readSymbol?_of_kind {kind : Char → Bool} (hkind : symbolStarts.any kind = false)
    {c : Char} (h : kind c = true) (cs : List Char) : readSymbol? (c :: cs) = none := by
  apply readSymbol?_of_not_mem
  intro hc
  exact List.any_eq_false.1 hkind c hc h

theorem readNumber?_of_not_digit {c : Char} (h : isDecimalDigit c = false) (cs : List Char) :
    readNumber? (c :: cs) = none := by
  simp [readNumber?, h]

/-! ## Paths and keywords -/

/-- A path is read up to what goes on with no name and is no further segment. -/
theorem next_pathText {rest : List Char} (hname : StopsName rest)
    (htail : pathTail rest = ([], rest)) (t : PathText) :
    Lexeme.next (t.chars ++ rest) = .ok ⟨ofPathText t.text, t.chars ++ rest, rest⟩ := by
  have hpath := readPath?_chars hname htail t
  rcases chars_eq_cons t with ⟨c, cs, hchars, hstart⟩
  rw [hchars, List.cons_append] at hpath ⊢
  apply next_of_read (isBlank_of_isNameChar (isNameChar_of_isNameStart hstart))
  -- A name starts no symbol and no number, so the path is what is read.
  unfold read
  rw [readSymbol?_of_kind rfl hstart,
    readNumber?_of_not_digit (isDecimalDigit_of_isNameStart hstart), hpath, ← hchars]
  rfl
where
  chars_eq_cons (t : PathText) : ∃ c cs, t.chars = c :: cs ∧ isNameStart c = true := by
    rcases t with ⟨name, hname, pieces⟩
    cases name with
    | nil => exact absurd hname (by decide)
    | cons c cs =>
      simp only [isName, Bool.and_eq_true] at hname
      exact ⟨c, _, rfl, hname.1⟩

theorem spells_pathText (t : PathText) : Spells t.chars (ofPathText t.text) := by
  intro rest hrest
  have hstops := hrest.stopsPath
  exact next_pathText hstops.stopsName (pathTail_of_head fun c hc => (hstops c hc).2.2) t

theorem spells_bool (b : Bool) :
    Spells (if b then "true".toList else "false".toList) (.bool b) := by
  cases b with
  | true => exact spells_pathText ⟨"true".toList, by decide, []⟩
  | false => exact spells_pathText ⟨"false".toList, by decide, []⟩

theorem spells_null : Spells "null".toList .null :=
  spells_pathText ⟨"null".toList, by decide, []⟩

/-- A dot of its own is the path of the current scope. -/
theorem next_scope {rest : List Char} (hrest : StopsName rest) :
    Lexeme.next ('.' :: rest) = .ok ⟨.path ".", '.' :: rest, rest⟩ := by
  apply next_of_read (by decide)
  have hsymbol : readSymbol? ('.' :: rest) = none := by
    cases rest with
    | nil => rfl
    | cons c cs =>
      have hc : isNameStart c = false := by
        rw [Bool.eq_false_iff]
        intro hstart
        have hc := isNameChar_of_isNameStart hstart
        rw [(hrest c rfl).1] at hc
        cases hc
      simp [readSymbol?, hc]
  unfold read
  rw [hsymbol, readNumber?_of_not_digit (by decide)]
  rfl

/-! ## Numbers -/

/-- What follows a number and does not continue it. -/
def StopsNumber (rest : List Char) : Prop :=
  ∀ c ∈ rest.head?, isDecimalDigit c = false ∧ c ≠ '.'

theorem EndsWord.stopsNumber {rest : List Char} (h : EndsWord rest) : StopsNumber rest := by
  intro c hc
  rcases h c hc with rfl | rfl | rfl <;> decide

/-- Digits end where something else begins. -/
theorem span_digits {digits rest : List Char} (hd : ∀ d ∈ digits, d.isDigit = true)
    (hrest : ∀ c ∈ rest.head?, isDecimalDigit c = false) :
    (digits ++ rest).takeWhile isDecimalDigit = digits ∧
      (digits ++ rest).dropWhile isDecimalDigit = rest :=
  Text.span_run (fun d h => Unicode.isDecimalDigit_of_isDigit (hd d h)) hrest

theorem readNumber?_whole {digits rest : List Char} (hne : digits ≠ [])
    (hd : ∀ d ∈ digits, isDecimalDigit d = true) (hrest : StopsNumber rest) :
    readNumber? (digits ++ rest) = some (⟨false, Text.readDigits digits, 0⟩, rest) := by
  rcases Text.span_run hd fun c hc => (hrest c hc).1 with ⟨htake, hdrop⟩
  unfold readNumber?
  simp only [htake, hdrop, List.isEmpty_iff, hne, if_false]
  split
  · next tail => exact absurd rfl (hrest '.' (by simp)).2
  · rfl

theorem readNumber?_fraction {whole fraction rest : List Char} (hw : whole ≠ [])
    (hf : fraction ≠ []) (hwd : ∀ d ∈ whole, d.isDigit = true)
    (hfd : ∀ d ∈ fraction, d.isDigit = true) (hrest : StopsNumber rest) :
    readNumber? (whole ++ '.' :: (fraction ++ rest))
      = some (⟨false, Text.readDigits (whole ++ fraction), -(fraction.length : Int)⟩, rest) := by
  have hdot : ∀ c ∈ ('.' :: (fraction ++ rest)).head?, isDecimalDigit c = false := by
    simp
    decide
  rcases span_digits hwd hdot with ⟨htake, hdrop⟩
  rcases span_digits hfd fun c hc => (hrest c hc).1 with ⟨htake', hdrop'⟩
  unfold readNumber?
  simp [htake, hdrop, htake', hdrop', hw, hf]

/-- A number without a sign and with no exponent above zero is read back with its scale. -/
theorem readNumber?_plainChars {d : Decimal} (hsign : d.negative = false) (hexp : d.exponent ≤ 0)
    {rest : List Char} (hrest : StopsNumber rest) :
    readNumber? (d.plainChars ++ rest) = some (d, rest) := by
  rcases d with ⟨negative, coefficient, exponent⟩
  dsimp only at hsign hexp
  subst hsign
  by_cases hzero : exponent = 0
  · -- Without a scale the number is written without a point.
    subst hzero
    have hdigits : ∀ c ∈ Text.digitsOf coefficient, isDecimalDigit c = true :=
      fun c hc => Text.isDecimalDigit_of_mem_digitsOf hc
    have hplain : Decimal.plainChars ⟨false, coefficient, 0⟩ = Text.digitsOf coefficient := by
      rw [Decimal.plainChars_of_nonneg le_rfl, Decimal.coefficientAt]
      exact congrArg Text.digitsOf (Nat.mul_one coefficient)
    rw [hplain, readNumber?_whole (Text.digitsOf_ne_nil coefficient) hdigits hrest, Text.readDigits_digitsOf]
  · have hneg : exponent < 0 := lt_of_le_of_ne hexp hzero
    obtain ⟨whole, fraction, hplain, hsplit⟩ :=
      Decimal.plainChars_of_neg (d := ⟨false, coefficient, exponent⟩) hneg
    have hne := hsplit.ne_nil hneg
    have hplaces : (fraction.length : Int) = -exponent := hsplit.length_fraction
    rw [hplain, List.append_assoc, List.cons_append,
      readNumber?_fraction hne.1 hne.2 (fun c hc => hsplit.digits c (List.mem_append_left _ hc))
        (fun c hc => hsplit.digits c (List.mem_append_right _ hc)) hrest,
      hsplit.value, hplaces, Int.neg_neg]

theorem spells_number {d : Decimal} (hsign : d.negative = false) (hexp : d.exponent ≤ 0) :
    Spells d.plainChars (.number d) := by
  intro rest hrest
  have hread := readNumber?_plainChars hsign hexp hrest.stopsNumber
  cases hchars : d.plainChars ++ rest with
  | nil =>
    rw [hchars] at hread
    exact absurd hread (by simp [readNumber?])
  | cons c cs =>
    rw [hchars] at hread
    -- A number is read, so a digit comes first.
    have hdigit : isDecimalDigit c = true := by
      by_contra hc
      rw [readNumber?_of_not_digit (by simpa using hc)] at hread
      exact absurd hread (by simp)
    apply next_of_read (Unicode.isBlank_of_isDecimalDigit hdigit)
    unfold read
    rw [readSymbol?_of_kind rfl hdigit, hread]

/-! ## Quoted text -/

/-- A character as it is written between double quotes. -/
def escape (c : Char) : List Char :=
  if c = '"' ∨ c = '\\' then ['\\', c]
  else if c = '\n' then ['\\', 'n']
  else if c = '\t' then ['\\', 't']
  else [c]

/-- A text in double quotes. -/
def quotedChars (s : String) : List Char :=
  '"' :: s.toList.flatMap escape ++ ['"']

theorem quotedBody_escape (cs rest : List Char) :
    quotedBody '"' (cs.flatMap escape ++ '"' :: rest) = some (cs, rest) := by
  induction cs with
  | nil => rfl
  | cons c cs ih =>
    rw [List.flatMap_cons, List.append_assoc]
    by_cases hspecial : c = '"' ∨ c = '\\'
    · rcases hspecial with rfl | rfl <;> simp [escape, quotedBody, unescape, ih]
    by_cases hline : c = '\n'
    · subst hline
      simp [escape, quotedBody, unescape, ih]
    by_cases htab : c = '\t'
    · subst htab
      simp [escape, quotedBody, unescape, ih]
    -- Every other character stands for itself.
    simp only [not_or] at hspecial
    have hescape : escape c = [c] := by simp [escape, hspecial, hline, htab]
    rw [hescape, List.singleton_append]
    unfold quotedBody
    split <;> simp_all

theorem spells_text (s : String) : Spells (quotedChars s) (.text s) := by
  intro rest _
  have hbody := quotedBody_escape s.toList rest
  have hquoted : quotedChars s ++ rest = '"' :: (s.toList.flatMap escape ++ '"' :: rest) := by
    simp [quotedChars]
  rw [hquoted]
  apply next_of_read (by decide)
  have hsymbol : readSymbol? ('"' :: (s.toList.flatMap escape ++ '"' :: rest)) = none := rfl
  have hpath : readPath? ('"' :: (s.toList.flatMap escape ++ '"' :: rest)) = none := rfl
  unfold read
  rw [hsymbol, readNumber?_of_not_digit (by decide), hpath]
  simp [hbody]

end Token
end ReceiptTemplate
