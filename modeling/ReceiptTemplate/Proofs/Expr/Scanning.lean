import ReceiptTemplate.Proofs.Expr.QuotedText

/-!
# Scanning — what a token takes from its text

Reading a token takes its lexeme from the front of the text and leaves the rest as it is.  The
lexemes of each kind of token are given here as they are written, apart from the readers.  Only at
the end of the text there is none.
-/

namespace ReceiptTemplate

open Unicode (isBlank isDecimalDigit)

namespace Token

variable {cs rest : List Char} {token : Token}

/-! ## Lexemes -/

/-- A path text is a path or a keyword. -/
theorem ofPathText_cases (p : String) :
    ofPathText p = .path p ∨ (∃ b, ofPathText p = .bool b) ∨ ofPathText p = .null := by
  unfold ofPathText
  split
  · exact .inr (.inl ⟨true, rfl⟩)
  · split
    · exact .inr (.inl ⟨false, rfl⟩)
    · split
      · exact .inr (.inr rfl)
      · exact .inl rfl

/-- `LexemeOf word token`: the token is written as `word`. -/
inductive LexemeOf : List Char → Token → Prop
  | symbol (s : Symbol) : LexemeOf s.text.toList (.symbol s)
  | whole {digits : List Char} (hne : digits ≠ [])
      (hdigits : ∀ c ∈ digits, isDecimalDigit c = true) :
      LexemeOf digits (.number ⟨false, Text.readDigits digits, 0⟩)
  | fraction {whole fraction : List Char} (hwhole : whole ≠ []) (hfraction : fraction ≠ [])
      (hdigits : ∀ c ∈ whole ++ fraction, isDecimalDigit c = true) :
      LexemeOf (whole ++ '.' :: fraction)
        (.number ⟨false, Text.readDigits (whole ++ fraction), -(fraction.length : Int)⟩)
  /-- The keywords are written like paths. -/
  | path (t : PathText) : LexemeOf t.chars (ofPathText t.text)
  | scope : LexemeOf ['.'] (.path ".")
  | text {quote : Char} {pieces : List QuotedPiece} (hquote : IsQuote quote)
      (hfits : ∀ p ∈ pieces, p.Fits quote) (hescaped : .escaped '\n' ∉ pieces) :
      LexemeOf (quote :: (pieces.flatMap QuotedPiece.chars ++ [quote]))
        (.text (String.ofList (quotedValue pieces)))

namespace LexemeOf

variable {word : List Char}

theorem ne_nil (h : LexemeOf word token) : word ≠ [] := by
  cases h with
  | symbol s => cases s <;> exact nofun
  | whole hne => exact hne
  | fraction | scope | text => simp
  | path t =>
    rcases t with ⟨name, hname, pieces⟩
    cases name with
    | nil => exact absurd hname (by decide)
    | cons c cs => exact List.cons_ne_nil _ _

/-- The end of a text is no word. -/
theorem ne_finish (h : LexemeOf word token) : token ≠ .finish := by
  cases h with
  | path t =>
    rcases ofPathText_cases t.text with hp | ⟨b, hp⟩ | hp
    all_goals
      rw [hp]
      exact nofun
  | _ => exact nofun

end LexemeOf

/-! ## What each reader takes -/

theorem readSymbol?_append {s : Symbol} (h : readSymbol? cs = some (s, rest)) :
    s.text.toList ++ rest = cs := by
  unfold readSymbol? at h
  split at h
  case h_20 c cs =>
    split at h
    · cases h
      rfl
    · cases h
  all_goals
    cases h
    try rfl

theorem suffix_of_quotedBody {quote : Char} {body : List Char}
    (h : quotedBody quote cs = some (body, rest)) : rest <:+ cs := by
  rcases closedBy_of_quotedBody h with ⟨pieces, hclosed, -, -⟩
  refine ⟨pieces.flatMap QuotedPiece.chars ++ [quote], ?_⟩
  rw [hclosed.text, List.append_assoc]
  rfl

theorem isNameRest_cons {c : Char} (hc : isNameChar c = true) (cs : List Char) :
    isNameRest (c :: cs) = isNameRest cs := by
  have hhyphen : c ≠ '-' := by
    rintro rfl
    exact absurd hc (by decide)
  conv_lhs => unfold isNameRest
  split <;> simp_all

/-- A name is read up to where no more of a name stands. -/
theorem isNameRest_nameBody (cs : List Char) : isNameRest (nameBody cs).1 = true := by
  fun_induction nameBody cs with
  | case3 c cs hc name rest hbody ih =>
    rw [hbody] at ih
    simp [isNameRest, hc, ih]
  | case5 c cs hnil hcons hc name rest hbody ih =>
    rw [hbody] at ih
    exact (isNameRest_cons hc name).trans ih
  | case1 | case2 | case4 | case6 => rfl

theorem exists_digits_of_bracketIndex? {index : List Char}
    (h : bracketIndex? cs = some (index, rest)) :
    ∃ digits, digits ≠ [] ∧ (∀ c ∈ digits, isDecimalDigit c = true) ∧
      index = '[' :: digits ++ [']'] := by
  unfold bracketIndex? at h
  split at h
  · next d ds rest' htake hdrop =>
    cases h
    refine ⟨d :: ds, List.cons_ne_nil d ds, ?_, rfl⟩
    intro c hc
    rw [← htake] at hc
    exact List.mem_takeWhile_imp hc
  · cases h

theorem exists_pieces_of_pathTail (cs : List Char) :
    ∃ pieces : List PathPiece, (pathTail cs).1 = pieces.flatMap PathPiece.chars := by
  fun_induction pathTail cs with
  | case1 c tail hstart more ih =>
    rcases ih with ⟨pieces, hpieces⟩
    have hname : isName (c :: (nameBody tail).1) = true := by
      simp [isName, hstart, isNameRest_nameBody]
    exact ⟨.name _ hname :: pieces, by simp [PathPiece.chars, more, hpieces]⟩
  | case3 tail index rest hindex more ih =>
    rcases ih with ⟨pieces, hpieces⟩
    rcases exists_digits_of_bracketIndex? hindex with ⟨digits, hne, hdigits, rfl⟩
    exact ⟨.index digits hne hdigits :: pieces, by simp [PathPiece.chars, more, hpieces]⟩
  | case2 | case4 | case5 => exact ⟨[], rfl⟩

/-- Only path texts are read as paths. -/
theorem exists_pathText_of_readPath? {p : List Char} (h : readPath? cs = some (p, rest)) :
    ∃ t : PathText, p = t.chars := by
  unfold readPath? at h
  split at h
  · cases h
  · next c cs =>
    split at h
    · next hstart =>
      cases h
      rcases exists_pieces_of_pathTail (nameBody cs).2 with ⟨pieces, hpieces⟩
      have hname : isName (c :: (nameBody cs).1) = true := by
        simp [isName, hstart, isNameRest_nameBody]
      exact ⟨⟨_, hname, pieces⟩, by rw [hpieces]; rfl⟩
    · cases h

theorem ne_nil_of_readPath? {p : List Char} (h : readPath? cs = some (p, rest)) : p ≠ [] := by
  rcases exists_pathText_of_readPath? h with ⟨t, rfl⟩
  exact (LexemeOf.path t).ne_nil

theorem readNumber?_lexeme {d : Decimal} (h : readNumber? cs = some (d, rest)) :
    ∃ word, word ++ rest = cs ∧ LexemeOf word (.number d) := by
  have hsplit := List.takeWhile_append_dropWhile (p := isDecimalDigit) (l := cs)
  have hdigits : ∀ c ∈ cs.takeWhile isDecimalDigit, isDecimalDigit c = true :=
    fun c hc => List.mem_takeWhile_imp hc
  unfold readNumber? at h
  generalize cs.takeWhile isDecimalDigit = whole at h hsplit hdigits
  generalize cs.dropWhile isDecimalDigit = left at h hsplit
  dsimp only at h
  split at h
  · cases h
  · next hwhole =>
    have hne : whole ≠ [] := by simpa using hwhole
    split at h
    · next tail =>
      split at h
      · cases h
        exact ⟨whole, hsplit, .whole hne hdigits⟩
      · next hfraction =>
        cases h
        have htail := List.takeWhile_append_dropWhile (p := isDecimalDigit) (l := tail)
        refine ⟨whole ++ '.' :: tail.takeWhile isDecimalDigit, ?_, .fraction hne ?_ ?_⟩
        · rw [List.append_assoc, List.cons_append, htail, hsplit]
        · simpa using hfraction
        · intro c hc
          rcases List.mem_append.1 hc with hc | hc
          · exact hdigits c hc
          · exact List.mem_takeWhile_imp hc
    · cases h
      exact ⟨whole, hsplit, .whole hne hdigits⟩

theorem quotedBody_lexeme {quote : Char} {body : List Char} (hquote : IsQuote quote)
    (h : quotedBody quote cs = some (body, rest)) :
    ∃ word, word ++ rest = quote :: cs ∧ LexemeOf word (.text (String.ofList body)) := by
  rcases closedBy_of_quotedBody h with ⟨pieces, hclosed, hescaped, rfl⟩
  refine ⟨_, ?_, .text hquote hclosed.fits hescaped⟩
  rw [hclosed.text, List.cons_append, List.append_assoc]
  rfl

/-! ## The token at the head of a text -/

/-- What a reader finds at the head of the text `cs`, with `rest` after it. -/
inductive AtHead : List Char → Token → List Char → Prop
  | symbol {cs rest : List Char} {s : Symbol} (h : readSymbol? cs = some (s, rest)) :
      AtHead cs (.symbol s) rest
  | number {cs rest : List Char} {d : Decimal} (h : readNumber? cs = some (d, rest)) :
      AtHead cs (.number d) rest
  | path {cs p rest : List Char} (h : readPath? cs = some (p, rest)) :
      AtHead cs (ofPathText (String.ofList p)) rest
  | scope (rest : List Char) : AtHead ('.' :: rest) (.path ".") rest
  | text {quote : Char} {cs body rest : List Char} (hquote : IsQuote quote)
      (h : quotedBody quote cs = some (body, rest)) :
      AtHead (quote :: cs) (.text (String.ofList body)) rest
  | finish : AtHead [] .finish []

/-- Why there is no token at the head of a text. -/
inductive NoneAt : List Char → ParseCause → Prop
  | character (c : Char) (tail : List Char) : NoneAt (c :: tail) (.unexpectedCharacter c)
  | text {quote : Char} {tail : List Char} (hquote : IsQuote quote)
      (h : quotedBody quote tail = none) : NoneAt (quote :: tail) .unterminatedText

/-- A token is read, or the fault is at the head of the text. -/
theorem read_cases (cs : List Char) :
    (∃ token rest, read cs = .ok (token, rest) ∧ AtHead cs token rest) ∨
      ∃ cause, read cs = .error (.at cause cs) ∧ NoneAt cs cause := by
  unfold read
  cases hsymbol : readSymbol? cs with
  | some p => exact .inl ⟨_, _, rfl, .symbol hsymbol⟩
  | none =>
    cases hnumber : readNumber? cs with
    | some p => exact .inl ⟨_, _, rfl, .number hnumber⟩
    | none =>
      cases hpath : readPath? cs with
      | some p => exact .inl ⟨_, _, rfl, .path hpath⟩
      | none =>
        cases cs with
        | nil => exact .inl ⟨_, _, rfl, .finish⟩
        | cons c tail =>
          dsimp only
          by_cases hdot : c = '.'
          · subst hdot
            exact .inl ⟨_, _, rfl, .scope tail⟩
          · rw [if_neg hdot]
            by_cases hquote : (c = '"' || c = '\'') = true
            · have hc : IsQuote c := by simpa [IsQuote] using hquote
              rw [if_pos hquote]
              cases hbody : quotedBody c tail with
              | some p => exact .inl ⟨_, _, rfl, .text hc hbody⟩
              | none => exact .inr ⟨_, rfl, .text hc hbody⟩
            · rw [if_neg hquote]
              exact .inr ⟨_, rfl, .character c tail⟩

/-! ### Where a lexeme stands -/

theorem exists_read_of_isSome
    (h : (readSymbol? cs).isSome ∨ (readNumber? cs).isSome ∨ (readPath? cs).isSome) :
    ∃ p, read cs = .ok p := by
  unfold read
  cases hsymbol : readSymbol? cs with
  | some p => exact ⟨_, rfl⟩
  | none =>
    cases hnumber : readNumber? cs with
    | some p => exact ⟨_, rfl⟩
    | none =>
      cases hpath : readPath? cs with
      | some p => exact ⟨_, rfl⟩
      | none => simp [hsymbol, hnumber, hpath] at h

/-- What starts with a dot is a dot before a name, or the current scope. -/
theorem exists_read_dot (rest : List Char) : ∃ p, read ('.' :: rest) = .ok p := by
  have hnumber := readNumber?_of_not_digit (show isDecimalDigit '.' = false by decide) rest
  have hpath : readPath? ('.' :: rest) = none := by
    have hstart : isNameStart '.' = false := by decide
    simp [readPath?, hstart]
  unfold read
  cases readSymbol? ('.' :: rest) with
  | some p => exact ⟨_, rfl⟩
  | none =>
    rw [hnumber, hpath]
    exact ⟨_, rfl⟩

theorem readSymbol?_isSome {s : Symbol} (hdot : s ≠ .dot) (rest : List Char) :
    (readSymbol? (s.text.toList ++ rest)).isSome := by
  cases s with
  | dot => exact absurd rfl hdot
  | less | greater | not | pipe =>
    -- What follows may make a longer symbol of it.
    cases rest with
    | nil => rfl
    | cons c cs =>
      unfold readSymbol?
      split <;> simp_all [Symbol.text]
  | _ => rfl

theorem readNumber?_isSome {c : Char} (hc : isDecimalDigit c = true) (cs : List Char) :
    (readNumber? (c :: cs)).isSome := by
  have hwhole : (c :: cs).takeWhile isDecimalDigit ≠ [] := by simp [hc]
  unfold readNumber?
  simp only [List.isEmpty_iff, hwhole, if_false]
  split
  · split <;> rfl
  · rfl

/-- Where a lexeme stands, a token is read: this one, or one with a longer lexeme. -/
theorem LexemeOf.exists_read {word : List Char} (h : LexemeOf word token) (rest : List Char) :
    ∃ p, read (word ++ rest) = .ok p := by
  cases h with
  | symbol s =>
    by_cases hdot : s = .dot
    · subst hdot
      exact exists_read_dot rest
    · exact exists_read_of_isSome (.inl (readSymbol?_isSome hdot rest))
  | whole hne hdigits =>
    rcases List.exists_cons_of_ne_nil hne with ⟨c, cs, rfl⟩
    exact exists_read_of_isSome (.inr (.inl (readNumber?_isSome (hdigits c List.mem_cons_self) _)))
  | fraction hwhole hfraction hdigits =>
    rcases List.exists_cons_of_ne_nil hwhole with ⟨c, cs, rfl⟩
    exact exists_read_of_isSome (.inr (.inl (readNumber?_isSome (hdigits c (by simp)) _)))
  | path t =>
    rcases next_pathText.chars_eq_cons t with ⟨c, cs, hchars, hstart⟩
    refine exists_read_of_isSome (.inr (.inr ?_))
    rw [hchars, List.cons_append]
    simp [readPath?, hstart]
  | scope => exact exists_read_dot rest
  | @text quote pieces hquote hfits hescaped =>
    have hclosed : ClosedBy quote pieces (pieces.flatMap QuotedPiece.chars ++ [quote] ++ rest) rest :=
      ⟨hfits, by simp⟩
    rw [List.cons_append, read_quote hquote,
      quotedBody_of_closedBy hquote.ne_backslash hclosed hescaped]
    exact ⟨_, rfl⟩

theorem atHead_of_read {token : Token} (h : read cs = .ok (token, rest)) :
    AtHead cs token rest := by
  rcases read_cases cs with ⟨token', rest', hread, hhead⟩ | ⟨cause, hread, -⟩
  · rw [hread] at h
    cases h
    exact hhead
  · rw [hread] at h
    cases h

namespace AtHead

/-- A token takes its lexeme away, or is the end of the text. -/
theorem lexeme (h : AtHead cs token rest) :
    (∃ word, word ++ rest = cs ∧ LexemeOf word token) ∨ token = .finish ∧ cs = [] ∧ rest = [] := by
  cases h with
  | @symbol _ _ s h => exact .inl ⟨s.text.toList, readSymbol?_append h, .symbol s⟩
  | number h => exact .inl (readNumber?_lexeme h)
  | path h =>
    rcases exists_pathText_of_readPath? h with ⟨t, rfl⟩
    exact .inl ⟨t.chars, (readPath?_append h).1, .path t⟩
  | scope rest => exact .inl ⟨['.'], rfl, .scope⟩
  | text hquote h => exact .inl (quotedBody_lexeme hquote h)
  | finish => exact .inr ⟨rfl, rfl, rfl⟩

theorem suffix (h : AtHead cs token rest) : rest <:+ cs := by
  rcases h.lexeme with ⟨word, happend, -⟩ | ⟨-, rfl, rfl⟩
  · exact ⟨word, happend⟩
  · exact List.suffix_rfl

theorem length_lt (h : AtHead cs token rest) (hcs : cs ≠ []) : rest.length < cs.length := by
  rcases h.lexeme with ⟨word, rfl, hword⟩ | ⟨-, rfl, -⟩
  · have hpos := List.length_pos_iff.2 hword.ne_nil
    rw [List.length_append]
    omega
  · exact absurd rfl hcs

/-- A path is read as one, or is the dot of the current scope. -/
theorem path_cases {p : String} (h : AtHead cs (.path p) rest) :
    readPath? cs = some (p.toList, rest) ∨ p = "." ∧ cs = '.' :: rest := by
  generalize htoken : Token.path p = token at h
  cases h with
  | @path _ q _ h =>
    rcases ofPathText_cases (String.ofList q) with hq | ⟨b, hq⟩ | hq
    all_goals
      rw [hq] at htoken
      cases htoken
    rw [String.toList_ofList]
    exact .inl h
  | scope rest =>
    cases htoken
    exact .inr ⟨rfl, rfl⟩
  | symbol h => cases htoken
  | number h => cases htoken
  | text hquote h => cases htoken
  | finish => cases htoken

/-- A path stands in the text as it is. -/
theorem path_append {p : String} (h : AtHead cs (.path p) rest) : p.toList ++ rest = cs := by
  rcases h.path_cases with hread | ⟨rfl, rfl⟩
  · exact (readPath?_append hread).1
  · rfl

/-- The end is read at the end only. -/
theorem eq_nil (h : AtHead cs .finish rest) : cs = [] := by
  rcases h.lexeme with ⟨word, -, hword⟩ | ⟨-, hcs, -⟩
  · exact absurd rfl hword.ne_finish
  · exact hcs

end AtHead
end Token

end ReceiptTemplate
