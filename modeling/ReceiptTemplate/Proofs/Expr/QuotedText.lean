import ReceiptTemplate.Proofs.Expr.TrailingBlanks

/-!
# Quoted text — where it ends and what it stands for

Between its quotes a text consists of pieces: characters that stand for themselves, and characters
after a backslash.  The closing quote is the first one that is no piece.  Tokens and filter
arguments read such a text in the same way, up to the closing quote and to the value of the pieces.

A backslash before a line feed is the exception: it makes no piece that can be read, and the text
counts as unterminated although a closing quote follows.
-/

namespace ReceiptTemplate

open Unicode (isBlank)

/-! ## Pieces of a quoted text -/

inductive QuotedPiece where
  | plain (c : Char)
  /-- The character after a backslash. -/
  | escaped (c : Char)
deriving DecidableEq

namespace QuotedPiece

def chars : QuotedPiece → List Char
  | .plain c => [c]
  | .escaped c => ['\\', c]

def value : QuotedPiece → Char
  | .plain c => c
  | .escaped 'n' => '\n'
  | .escaped 't' => '\t'
  | .escaped c => c

/-- Neither a quote nor a backslash stands for itself. -/
def Fits (quote : Char) : QuotedPiece → Prop
  | .plain c => c ≠ quote ∧ c ≠ '\\'
  | .escaped _ => True

theorem value_escaped (c : Char) : (escaped c).value = Token.unescape c := by
  unfold value Token.unescape
  split <;> simp_all

/-- The first piece of a text is determined by the text. -/
theorem Fits.chars_append_inj {quote : Char} {p p' : QuotedPiece} (h : p.Fits quote)
    (h' : p'.Fits quote) {cs cs' : List Char} (heq : p.chars ++ cs = p'.chars ++ cs') :
    p = p' ∧ cs = cs' := by
  cases p with
  | plain c =>
    cases p' with
    | plain c' =>
      rcases List.cons.inj heq with ⟨rfl, hcs⟩
      exact ⟨rfl, hcs⟩
    | escaped c' => exact absurd (List.cons.inj heq).1 h.2
  | escaped c =>
    cases p' with
    | plain c' => exact absurd (List.cons.inj heq).1.symm h'.2
    | escaped c' =>
      rcases List.cons.inj (List.cons.inj heq).2 with ⟨rfl, hcs⟩
      exact ⟨rfl, hcs⟩

/-- No piece starts with the closing quote. -/
theorem Fits.chars_append_ne {quote : Char} {p : QuotedPiece} (h : p.Fits quote)
    (hslash : quote ≠ '\\') {cs cs' : List Char} : p.chars ++ cs ≠ quote :: cs' := by
  intro heq
  cases p with
  | plain c => exact h.1 (List.cons.inj heq).1
  | escaped c => exact hslash (List.cons.inj heq).1.symm

end QuotedPiece

/-- After the opening quote the pieces stand up to the closing quote, and `rest` follows it. -/
structure ClosedBy (quote : Char) (pieces : List QuotedPiece) (cs rest : List Char) : Prop where
  fits : ∀ p ∈ pieces, p.Fits quote
  text : cs = pieces.flatMap QuotedPiece.chars ++ quote :: rest

/-- The text that the pieces stand for. -/
def quotedValue (pieces : List QuotedPiece) : List Char :=
  pieces.map QuotedPiece.value

/-! ## What the reader accepts -/

section

variable {quote c : Char} {pieces : List QuotedPiece} {cs rest body : List Char}

theorem ClosedBy.close (quote : Char) (rest : List Char) : ClosedBy quote [] (quote :: rest) rest :=
  ⟨fun _ h => absurd h List.not_mem_nil, rfl⟩

theorem ClosedBy.plain (h : ClosedBy quote pieces cs rest) (hquote : c ≠ quote)
    (hslash : c ≠ '\\') :
    ClosedBy quote (.plain c :: pieces) (c :: cs) rest := by
  refine ⟨?_, by rw [h.text]; rfl⟩
  exact List.forall_mem_cons.2 ⟨⟨hquote, hslash⟩, h.fits⟩

theorem ClosedBy.escaped (h : ClosedBy quote pieces cs rest) (c : Char) :
    ClosedBy quote (.escaped c :: pieces) ('\\' :: c :: cs) rest := by
  refine ⟨?_, by rw [h.text]; rfl⟩
  exact List.forall_mem_cons.2 ⟨trivial, h.fits⟩

/-- Pieces and closing quote are what they are in only one way. -/
theorem ClosedBy.unique (hslash : quote ≠ '\\') (h : ClosedBy quote pieces cs rest)
    {pieces' : List QuotedPiece} {rest' : List Char} (h' : ClosedBy quote pieces' cs rest') :
    pieces = pieces' ∧ rest = rest' := by
  rcases h with ⟨hfits, rfl⟩
  rcases h' with ⟨hfits', htext⟩
  induction pieces generalizing pieces' with
  | nil =>
    cases pieces' with
    | nil => exact ⟨rfl, (List.cons.inj htext).2⟩
    | cons piece' pieces' =>
      rw [List.flatMap_cons, List.append_assoc] at htext
      exact absurd htext.symm ((hfits' piece' List.mem_cons_self).chars_append_ne hslash)
  | cons piece pieces ih =>
    have hpiece := hfits piece List.mem_cons_self
    rw [List.flatMap_cons, List.append_assoc] at htext
    cases pieces' with
    | nil => exact absurd htext (hpiece.chars_append_ne hslash)
    | cons piece' pieces' =>
      have hpiece' := hfits' piece' List.mem_cons_self
      rw [List.flatMap_cons, List.append_assoc] at htext
      rcases hpiece.chars_append_inj hpiece' htext with ⟨rfl, htail⟩
      have hpieces := ih (fun p hp => hfits p (List.mem_cons_of_mem piece hp))
        (fun p hp => hfits' p (List.mem_cons_of_mem piece hp)) htail
      exact ⟨congrArg (piece :: ·) hpieces.1, hpieces.2⟩

namespace Token

/-- A text that is read is closed, and no piece of it is an escaped line feed. -/
theorem closedBy_of_quotedBody (h : quotedBody quote cs = some (body, rest)) :
    ∃ pieces, ClosedBy quote pieces cs rest ∧ .escaped '\n' ∉ pieces ∧
      body = quotedValue pieces := by
  fun_induction quotedBody quote cs generalizing body with
  | case1 => cases h
  | case2 => cases h
  | case3 cs => cases h
  | case4 c cs hline ih =>
    obtain ⟨⟨body', rest'⟩, hread, heq⟩ := Option.map_eq_some_iff.1 h
    cases heq
    rcases ih hread with ⟨pieces, hclosed, hescaped, rfl⟩
    refine ⟨.escaped c :: pieces, hclosed.escaped c, ?_, ?_⟩
    · rw [List.mem_cons, not_or]
      refine ⟨?_, hescaped⟩
      intro heq
      cases heq
      exact hline rfl
    · exact congrArg (· :: quotedValue pieces) (QuotedPiece.value_escaped c).symm
  | case5 cs hnil hcons =>
    cases h
    exact ⟨[], .close quote rest, List.not_mem_nil, rfl⟩
  | case6 c cs hnil hcons hquote ih =>
    obtain ⟨⟨body', rest'⟩, hread, heq⟩ := Option.map_eq_some_iff.1 h
    cases heq
    rcases ih hread with ⟨pieces, hclosed, hescaped, rfl⟩
    have hslash : c ≠ '\\' := by
      rintro rfl
      cases cs with
      | nil => exact hnil rfl rfl
      | cons d ds => exact hcons d ds rfl rfl
    refine ⟨.plain c :: pieces, hclosed.plain hquote hslash, ?_, rfl⟩
    rw [List.mem_cons, not_or]
    refine ⟨?_, hescaped⟩
    intro heq
    cases heq

/-- A closed text is read to its closing quote. -/
theorem quotedBody_of_closedBy (hslash : quote ≠ '\\') (h : ClosedBy quote pieces cs rest)
    (hescaped : .escaped '\n' ∉ pieces) :
    quotedBody quote cs = some (quotedValue pieces, rest) := by
  rcases h with ⟨hfits, rfl⟩
  induction pieces with
  | nil =>
    rw [List.flatMap_nil, List.nil_append, quotedBody_cons hslash, if_pos rfl]
    rfl
  | cons piece pieces ih =>
    rw [List.mem_cons, not_or] at hescaped
    have hread := ih hescaped.2 fun p hp => hfits p (List.mem_cons_of_mem piece hp)
    have hpiece := hfits piece List.mem_cons_self
    rw [List.flatMap_cons, List.append_assoc]
    cases piece with
    | plain c =>
      rw [QuotedPiece.chars, List.singleton_append, quotedBody_cons hpiece.2, if_neg hpiece.1,
        hread]
      rfl
    | escaped c =>
      have hline : c ≠ '\n' := by
        rintro rfl
        exact hescaped.1 rfl
      simp only [QuotedPiece.chars, List.cons_append, List.nil_append]
      rw [quotedBody, if_neg hline, hread, Option.map_some, ← QuotedPiece.value_escaped]
      rfl

/-- Only the text after the opening quote decides whether it is closed. -/
theorem quotedBody_eq_none
    (hclosed : ∀ pieces rest, ClosedBy quote pieces cs rest → .escaped '\n' ∈ pieces) :
    quotedBody quote cs = none := by
  cases hread : quotedBody quote cs with
  | none => rfl
  | some p =>
    rcases closedBy_of_quotedBody hread with ⟨pieces, h, hescaped, -⟩
    exact absurd (hclosed pieces p.2 h) hescaped

end Token
end

/-! ## The two readers -/

section

variable {quote : Char} {ws : List Char}

/-- The quotes that open a text. -/
def IsQuote (c : Char) : Prop :=
  c = '"' ∨ c = '\''

theorem IsQuote.isBlank (h : IsQuote quote) : isBlank quote = false := by
  rcases h with rfl | rfl <;> decide

theorem IsQuote.ne_backslash (h : IsQuote quote) : quote ≠ '\\' := by
  rcases h with rfl | rfl <;> decide

theorem Blanks.dropWhile_quote (hws : Blanks ws) (h : IsQuote quote) (cs : List Char) :
    (ws ++ quote :: cs).dropWhile Unicode.isBlank = quote :: cs := by
  rw [hws.dropWhile_append, List.dropWhile_cons, h.isBlank]
  rfl

/-- A quote starts nothing but a quoted text. -/
theorem Token.read_quote (h : IsQuote quote) (cs : List Char) :
    Token.read (quote :: cs) =
      match quotedBody quote cs with
      | some (body, rest) => .ok (.text (String.ofList body), rest)
      | none => .error (.at .unterminatedText (quote :: cs)) := by
  have hsymbol : readSymbol? (quote :: cs) = none := by
    apply readSymbol?_of_not_mem
    rcases h with rfl | rfl <;> decide
  have hnumber : readNumber? (quote :: cs) = none := by
    apply readNumber?_of_not_digit
    rcases h with rfl | rfl <;> decide
  have hpath : readPath? (quote :: cs) = none := by
    have hstart : isNameStart quote = false := by rcases h with rfl | rfl <;> decide
    simp [readPath?, hstart]
  have hdot : quote ≠ '.' := by
    rcases h with rfl | rfl <;> decide
  have hquote : (quote = '"' || quote = '\'') = true := by
    rcases h with rfl | rfl <;> rfl
  unfold Token.read
  rw [hsymbol, hnumber, hpath]
  exact (if_neg hdot).trans (if_pos hquote)

theorem Lexeme.next_quote (hws : Blanks ws) (h : IsQuote quote) (cs : List Char) :
    Lexeme.next (ws ++ quote :: cs) =
      match Token.quotedBody quote cs with
      | some (body, rest) => .ok ⟨.text (String.ofList body), quote :: cs, rest⟩
      | none => .error (.at .unterminatedText (quote :: cs)) := by
  unfold Lexeme.next
  simp only [hws.dropWhile_quote h, Token.read_quote h]
  cases Token.quotedBody quote cs <;> rfl

theorem FilterCall.readArgument_quote (hws : Blanks ws) (h : IsQuote quote) (cs : List Char) :
    FilterCall.readArgument (ws ++ quote :: cs) =
      match Token.quotedBody quote cs with
      | some (body, rest) => .ok (String.ofList body, rest)
      | none => .error (.at .unterminatedArgument (quote :: cs)) := by
  have hquote : (quote = '"' || quote = '\'') = true := by
    rcases h with rfl | rfl <;> rfl
  unfold FilterCall.readArgument
  rw [hws.dropWhile_quote h]
  exact if_pos hquote

/-! ## What both readers give -/

/-- A quoted text is read as a token and as an argument, with the same value and the same rest. -/
structure ReadsQuoted (ws : List Char) (quote : Char) (cs : List Char) (value : String)
    (rest : List Char) : Prop where
  token : Lexeme.next (ws ++ quote :: cs) = .ok ⟨.text value, quote :: cs, rest⟩
  argument : FilterCall.readArgument (ws ++ quote :: cs) = .ok (value, rest)

/-- Where `rest` is left of the source, both readers report that the text which is opened at place
`n` is not terminated. -/
structure Unterminated (source rest : List Char) (n : Nat) : Prop where
  token : (Lexeme.next rest).mapError (Fault.toError source)
    = .error ⟨.unterminatedText, some n, String.ofList source⟩
  argument : (FilterCall.readArgument rest).mapError (Fault.toError source)
    = .error ⟨.unterminatedArgument, some n, String.ofList source⟩

variable {cs rest : List Char} {pieces : List QuotedPiece}

theorem ClosedBy.readsQuoted (hws : Blanks ws) (h : IsQuote quote)
    (hclosed : ClosedBy quote pieces cs rest) (hescaped : .escaped '\n' ∉ pieces) :
    ReadsQuoted ws quote cs (String.ofList (quotedValue pieces)) rest := by
  have hbody := Token.quotedBody_of_closedBy h.ne_backslash hclosed hescaped
  constructor
  · rw [Lexeme.next_quote hws h, hbody]
  · rw [FilterCall.readArgument_quote hws h, hbody]

theorem unterminated_of_quotedBody (hws : Blanks ws) (h : IsQuote quote)
    (hbody : Token.quotedBody quote cs = none) (before : List Char) :
    Unterminated (before ++ (ws ++ quote :: cs)) (ws ++ quote :: cs)
      (before.length + ws.length) := by
  have hplace : (before ++ (ws ++ quote :: cs)).length - (quote :: cs).length
      = before.length + ws.length := by
    simp only [List.length_append]
    omega
  constructor
  · rw [Lexeme.next_quote hws h, hbody]
    simp only [Except.mapError, Fault.toError, hplace]
  · rw [FilterCall.readArgument_quote hws h, hbody]
    simp only [Except.mapError, Fault.toError, hplace]

/-- A quoted text is read, as a token and as an argument, exactly if it is closed and no backslash
in it stands before a line feed; its value is that of its pieces, and reading goes on after the
closing quote.  Otherwise it is unterminated from the opening quote on. -/
theorem quotedText_exact (hws : Blanks ws) (h : IsQuote quote) (before cs : List Char) :
    (∀ pieces rest, ClosedBy quote pieces cs rest →
      if .escaped '\n' ∈ pieces then
        Unterminated (before ++ (ws ++ quote :: cs)) (ws ++ quote :: cs)
          (before.length + ws.length)
      else ReadsQuoted ws quote cs (String.ofList (quotedValue pieces)) rest) ∧
    ((¬∃ pieces rest, ClosedBy quote pieces cs rest) →
      Unterminated (before ++ (ws ++ quote :: cs)) (ws ++ quote :: cs)
        (before.length + ws.length)) := by
  refine ⟨?_, ?_⟩
  · intro pieces rest hclosed
    split
    · next hescaped =>
      refine unterminated_of_quotedBody hws h (Token.quotedBody_eq_none ?_) before
      intro pieces' rest' hclosed'
      rcases hclosed.unique h.ne_backslash hclosed' with ⟨rfl, -⟩
      exact hescaped
    · next hescaped => exact hclosed.readsQuoted hws h hescaped
  · intro hopen
    refine unterminated_of_quotedBody hws h (Token.quotedBody_eq_none ?_) before
    intro pieces rest hclosed
    exact absurd ⟨pieces, rest, hclosed⟩ hopen

/-- A closing quote follows the escaped line feed, but the text counts as unterminated. -/
theorem quotedText_exact_line_feed :
    Blanks [] ∧ IsQuote '"' ∧
      ClosedBy '"' [.plain 'a', .escaped '\n', .plain 'b'] "a\\\nb\"".toList [] ∧
      Unterminated "\"a\\\nb\"".toList "\"a\\\nb\"".toList 0 := by
  have hws : Blanks [] := fun c hc => absurd hc List.not_mem_nil
  have hquote : IsQuote '"' := .inl rfl
  have hclosed : ClosedBy '"' [.plain 'a', .escaped '\n', .plain 'b'] "a\\\nb\"".toList [] := by
    refine ⟨?_, rfl⟩
    simp [QuotedPiece.Fits]
  refine ⟨hws, hquote, hclosed, ?_⟩
  exact (quotedText_exact hws hquote [] "a\\\nb\"".toList).1 _ _ hclosed

end
end ReceiptTemplate
