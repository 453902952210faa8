import ReceiptTemplate.Proofs.Expr.Derivation
import ReceiptTemplate.Proofs.Expr.OperandEnd
import ReceiptTemplate.Proofs.Expr.Scanning

/-!
# Followed — an expression inside a longer text

A text that is read as an expression is read the same way before a closing bracket, and the bracket
is then the next token.  Each step of its derivation is taken over the longer text as well.  The
same holds before an operator, as far as the operator does not continue what is read.

A bracket in the text that follows may close an index of a path, `a[0`, that is open at the end of
the text before.  No derivation goes on from there, so that none of a whole text meets it.
-/

namespace ReceiptTemplate

open Unicode (isBlank isDecimalDigit)

variable {cs tail rest : List Char}

/-! ## Readers -/

namespace Token

/-- A quoted text that is closed stays as it is. -/
theorem quotedBody_followed {quote : Char} (hquote : IsQuote quote) {body : List Char}
    (h : quotedBody quote cs = some (body, rest)) (tail : List Char) :
    quotedBody quote (cs ++ tail) = some (body, rest ++ tail) := by
  rcases closedBy_of_quotedBody h with ⟨pieces, hclosed, hescaped, rfl⟩
  refine quotedBody_of_closedBy hquote.ne_backslash ⟨hclosed.fits, ?_⟩ hescaped
  rw [hclosed.text, List.append_assoc]
  rfl

/-- A token is read as before, unless it is a word before an index that is open. -/
theorem read_followed (htail : Stops tail) (hcs : cs ≠ []) {token : Token}
    (h : read cs = .ok (token, rest)) :
    (OpensIndex rest ∧ ∃ p, token = ofPathText p) ∨
      read (cs ++ tail) = .ok (token, rest ++ tail) := by
  by_cases hopen : OpensIndex rest ∧ ∃ p, token = ofPathText p
  · exact .inl hopen
  refine .inr ?_
  unfold read at h ⊢
  rw [readSymbol?_leaving htail hcs, readNumber?_leaving htail]
  cases hsymbol : readSymbol? cs with
  | some p =>
    rw [hsymbol] at h
    cases h
    rfl
  | none =>
    rw [hsymbol] at h
    cases hnumber : readNumber? cs with
    | some p =>
      rw [hnumber] at h
      cases h
      rfl
    | none =>
      rw [hnumber] at h
      cases hpath : readPath? cs with
      | some p =>
        rw [hpath] at h
        cases h
        have hclosed : ']' ∈ tail.head? → ∀ q ∈ readPath? cs, ¬OpensIndex q.2 := by
          intro _ q hq hindex
          rw [hpath] at hq
          cases hq
          exact hopen ⟨hindex, _, rfl⟩
        rw [readPath?_leaving htail hclosed, hpath]
        rfl
      | none =>
        rw [hpath] at h
        have hclosed : ']' ∈ tail.head? → ∀ q ∈ readPath? cs, ¬OpensIndex q.2 := by
          intro _ q hq
          rw [hpath] at hq
          cases hq
        rw [readPath?_leaving htail hclosed, hpath]
        cases cs with
        | nil => exact absurd rfl hcs
        | cons c cs =>
          dsimp only [Option.map_none] at h ⊢
          split at h
          · next hdot =>
            cases h
            simp [hdot]
          · next hdot =>
            split at h
            · next hquote =>
              have hc : IsQuote c := by simpa [IsQuote] using hquote
              split at h
              · next body rest' hbody =>
                cases h
                simp [hdot, hquote, quotedBody_followed hc hbody tail]
              · cases h
            · cases h

end Token

namespace FilterCall

theorem readName_followed (htail : EndsCall tail) {name : List Char}
    (h : readName cs = .ok (name, rest)) : readName (cs ++ tail) = .ok (name, rest ++ tail) := by
  have hstops := stopsName_of_endsWord htail.endsWord
  unfold readName at h ⊢
  by_cases hcs : Blanks cs
  · simp [hcs.dropWhile] at h
  · rcases span_leaving hstops (cs.dropWhile isBlank) with ⟨htake, hdrop⟩
    simp only [dropWhile_append_of_not_blanks hcs, htake, hdrop]
    dsimp only at h
    split at h
    · cases h
    · next hname =>
      rw [if_neg hname]
      split at h
      · next hvalid =>
        cases h
        rw [if_pos hvalid]
      · cases h

theorem readArgument_followed (htail : EndsCall tail) {argument : String}
    (h : readArgument cs = .ok (argument, rest)) :
    readArgument (cs ++ tail) = .ok (argument, rest ++ tail) := by
  have hunquoted : ∀ c ∈ tail.head?, isUnquotedChar c = false := by
    intro c hc
    rcases htail.endsWord c hc with rfl | rfl | rfl <;> decide
  unfold readArgument at h ⊢
  by_cases hcs : Blanks cs
  · rw [hcs.dropWhile] at h
    cases h
  · rw [dropWhile_append_of_not_blanks hcs]
    cases hstart : cs.dropWhile isBlank with
    | nil => exact absurd (List.dropWhile_eq_nil_iff.1 hstart) hcs
    | cons c cs =>
      rw [hstart] at h
      dsimp only [List.cons_append] at h ⊢
      split at h
      · next hquote =>
        have hc : IsQuote c := by simpa [IsQuote] using hquote
        split at h
        · next body rest' hbody =>
          cases h
          rw [if_pos hquote, Token.quotedBody_followed hc hbody tail]
        · cases h
      · next hquote =>
        rcases span_leaving hunquoted (c :: cs) with ⟨htake, hdrop⟩
        rw [List.cons_append] at htake hdrop
        rw [if_neg hquote, htake, hdrop]
        split at h
        · cases h
        · next hword =>
          cases h
          rw [if_neg hword]

theorem argument?_followed (htail : EndsCall tail) {argument : Option String}
    (h : argument? cs = .ok (argument, rest)) :
    argument? (cs ++ tail) = .ok (argument, rest ++ tail) := by
  by_cases hcolon : ∃ value, cs = ':' :: value
  · rcases hcolon with ⟨value, rfl⟩
    rw [argument?] at h
    cases hvalue : readArgument value with
    | error fault =>
      rw [hvalue] at h
      cases h
    | ok p =>
      rw [hvalue] at h
      cases h
      rw [List.cons_append, argument?, readArgument_followed htail hvalue]
      rfl
  · have hcolon' : ∀ value, cs ++ tail ≠ ':' :: value := by
      intro value hsplit
      rcases htail.endsWord.stops.eq_cons (by decide) (by decide) (by decide) hsplit with
        ⟨rest, hrest, -⟩
      exact hcolon ⟨rest, hrest⟩
    rw [argument?_of_ne fun value hvalue => hcolon ⟨value, hvalue⟩] at h
    cases h
    exact argument?_of_ne hcolon'

theorem readNamed_followed (htail : EndsCall tail) (cs : List Char) :
    ∀ p, readNamed cs = .ok p → readNamed (cs ++ tail) = .ok (leaving tail p) := by
  have hname (cs : List Char) := span_leaving (stopsName_of_endsWord htail.endsWord) cs
  fun_induction readNamed cs with
  | case1 cs hb =>
    -- No name follows the blanks, neither here nor in the text after them.
    intro p h
    cases h
    have hcs : Blanks cs := List.dropWhile_eq_nil_iff.1 hb
    apply readNamed_of_no_name
    rw [hcs.dropWhile_append]
    exact htail.noName
  | case2 cs c left hb hc value hr fault ha =>
    intro p h
    cases h
  | case3 cs c left hb hc name value hr argument after ha ih =>
    intro p h
    have hr' : (left ++ tail).dropWhile isNameChar = ':' :: (value ++ tail) := by
      rw [(hname left).2, hr]
      rfl
    cases hmore : readNamed after with
    | error fault =>
      rw [hmore] at h
      cases h
    | ok q =>
      rw [hmore] at h
      cases h
      rw [readNamed_value (dropWhile_blanks hb tail) hc hr' (readArgument_followed htail ha),
        (hname left).1, ih q hmore]
      rfl
  | case4 cs c left hb hc name hr ih =>
    intro p h
    have hr' : ∀ value, (left ++ tail).dropWhile isNameChar ≠ ':' :: value := by
      intro value hsplit
      rw [(hname left).2] at hsplit
      rcases htail.endsWord.stops.eq_cons (by decide) (by decide) (by decide) hsplit with
        ⟨after, hafter, -⟩
      exact hr after hafter
    cases hmore : readNamed (left.dropWhile isNameChar) with
    | error fault =>
      rw [hmore] at h
      cases h
    | ok q =>
      rw [hmore] at h
      cases h
      rw [readNamed_flag (dropWhile_blanks hb tail) hc hr', (hname left).1, (hname left).2,
        ih q hmore]
      rfl
  | case5 cs c left hb hc =>
    intro p h
    cases h
    apply readNamed_of_no_name
    rw [dropWhile_blanks hb tail]
    simpa using hc

theorem read_followed (htail : EndsCall tail) {call : FilterCall} (h : read cs = .ok (call, rest)) :
    read (cs ++ tail) = .ok (call, rest ++ tail) := by
  rw [read_eq] at h ⊢
  rcases Expr.bind_eq_ok h with ⟨p, hname, h⟩
  rcases Expr.bind_eq_ok h with ⟨q, hargument, h⟩
  cases hnamed : readNamed q.2 with
  | error fault =>
    rw [hnamed] at h
    cases h
  | ok r =>
    rw [hnamed] at h
    cases h
    rw [readName_followed htail hname, Expr.ok_bind, argument?_followed htail hargument,
      Expr.ok_bind, readNamed_followed htail q.2 r hnamed]
    rfl

end FilterCall

/-! ## The text that follows -/

/-- A text that may stand after an operand: `after` is its first token, which is no index and no
member of the operand, and no filter call goes on in it. -/
structure Adjoins (tail : List Char) (after : Lexeme) : Prop where
  endsCall : FilterCall.EndsCall tail
  next : Lexeme.next tail = .ok after
  bracket : after.token ≠ .symbol .leftBracket
  dot : after.token ≠ .symbol .dot

/-- A text that closes off an expression before it, as no operator goes on with it either. -/
structure ClosesOff (tail : List Char) (after : Lexeme) : Prop extends Adjoins tail after where
  operator : Infix.ofToken? after.token = none

theorem endsCall_bracket {c : Char} (hc : c = ')' ∨ c = ']') (cs : List Char) :
    FilterCall.EndsCall (c :: cs) := by
  refine ⟨Token.endsWord_cons (.inr hc) cs, ?_⟩
  have hdrop : (c :: cs).dropWhile isBlank = c :: cs := by rcases hc with rfl | rfl <;> rfl
  rw [hdrop]
  intro b hb
  cases hb
  rcases hc with rfl | rfl <;> decide

theorem closesOff_rightBracket (cs : List Char) :
    ClosesOff (']' :: cs) ⟨.symbol .rightBracket, ']' :: cs, cs⟩ :=
  ⟨⟨endsCall_bracket (.inr rfl) cs, rfl, by simp, by simp⟩, rfl⟩

theorem closesOff_rightParen (cs : List Char) :
    ClosesOff (')' :: cs) ⟨.symbol .rightParen, ')' :: cs, cs⟩ :=
  ⟨⟨endsCall_bracket (.inl rfl) cs, rfl, by simp, by simp⟩, rfl⟩

theorem adjoins_operator (op : Infix) (cs : List Char) :
    Adjoins (' ' :: (op.symbol.text.toList ++ ' ' :: cs))
      ⟨.symbol op.symbol, op.symbol.text.toList ++ ' ' :: cs, ' ' :: cs⟩ where
  endsCall := (Expr.OperandEnd.operator op (Nat.le_refl _) cs).endsCall
  next := Expr.OperandEnd.next_operator op cs
  bracket := by simpa using op.symbol_ne rfl
  dot := by simpa using op.symbol_ne rfl

/-- A token before which an index is opened that only the text that follows could close: the
bracket, or the word before it. -/
inductive Lexeme.Unclosed : Lexeme → Prop
  | word (p : String) (start : List Char) {rest : List Char} (h : Token.OpensIndex rest) :
      Unclosed ⟨Token.ofPathText p, start, rest⟩
  | bracket (start : List Char) {digits : List Char} (hne : digits ≠ [])
      (h : ∀ d ∈ digits, isDecimalDigit d = true) : Unclosed ⟨.symbol .leftBracket, start, digits⟩

/-- The token `u` of the longer text that stands for the token `t`; the end of the text before is
followed by the first token after it. -/
inductive Lexeme.Followed (tail : List Char) (after : Lexeme) : Lexeme → Lexeme → Prop
  | same {token : Token} {start rest : List Char} (h : token ≠ .finish) :
      Followed tail after ⟨token, start, rest⟩ ⟨token, start ++ tail, rest ++ tail⟩
  | finish (start rest : List Char) : Followed tail after ⟨.finish, start, rest⟩ after

namespace Lexeme

variable {after t u v : Lexeme}

/-- What holds of a token of the longer text that stands for `t`, unless an index is left open. -/
def CarriesOver (tail : List Char) (after t : Lexeme) (P : Lexeme → Prop) : Prop :=
  t.Unclosed ∨ ∃ u, Followed tail after t u ∧ P u

namespace CarriesOver

variable {P Q : Lexeme → Prop}

theorem imp (h : CarriesOver tail after t P) (hPQ : ∀ u, P u → Q u) :
    CarriesOver tail after t Q := by
  rcases h with hopen | ⟨u, hfollowed, hu⟩
  · exact .inl hopen
  · exact .inr ⟨u, hfollowed, hPQ u hu⟩

theorem bind (h : CarriesOver tail after t P) (hopen : t.Unclosed → v.Unclosed)
    (hnext : ∀ u, Followed tail after t u → P u → CarriesOver tail after v Q) :
    CarriesOver tail after v Q := by
  rcases h with h | ⟨u, hfollowed, hu⟩
  · exact .inl (hopen h)
  · exact hnext u hfollowed hu

end CarriesOver

theorem next_followed (htail : Adjoins tail after) (h : next cs = .ok t) :
    CarriesOver tail after t fun u => next (cs ++ tail) = .ok u := by
  by_cases hcs : Blanks cs
  · -- The text ends with blanks, and the text that follows is what is read.
    rw [next, hcs.dropWhile] at h
    cases h
    exact .inr ⟨after, .finish [] [], by rw [next_blanks hcs, htail.next]⟩
  · have hne : cs.dropWhile isBlank ≠ [] := by
      intro hnil
      exact hcs (List.dropWhile_eq_nil_iff.1 hnil)
    unfold next at h ⊢
    rw [dropWhile_append_of_not_blanks hcs]
    dsimp only at h ⊢
    cases hread : Token.read (cs.dropWhile isBlank) with
    | error fault =>
      rw [hread] at h
      cases h
    | ok p =>
      rcases p with ⟨token, rest⟩
      rw [hread] at h
      cases h
      rcases Token.read_followed htail.endsCall.endsWord.stops hne hread with
        ⟨hopen, p, rfl⟩ | hfollowed
      · exact .inl (.word p _ hopen)
      · rw [hfollowed]
        refine .inr ⟨_, .same ?_, rfl⟩
        rintro rfl
        exact hne (Token.atHead_of_read hread).eq_nil

namespace Followed

theorem token_eq (h : Followed tail after t u) {token : Token} (ht : t.token = token)
    (htoken : token ≠ .finish) : u.token = token := by
  cases h with
  | same hne => exact ht
  | finish start rest => exact absurd ht.symm htoken

theorem advance (h : Followed tail after t u) (htail : Adjoins tail after)
    (ht : t.token ≠ .finish) (hv : t.advance = .ok v) :
    CarriesOver tail after v fun w => u.advance = .ok w := by
  cases h with
  | same hne => exact next_followed htail hv
  | finish start rest => exact absurd rfl ht

/-- What is not the token of `t` nor of the text after it is not the token over the longer text. -/
theorem token_ne (h : Followed tail after t u) {token : Token} (ht : t.token ≠ token)
    (hafter : after.token ≠ token) : u.token ≠ token := by
  cases h with
  | same hne => exact ht
  | finish start rest => exact hafter

/-- At the end of the text before stands the first token after it. -/
theorem eq_after (h : Followed tail after t u) (ht : t.token = .finish) : u = after := by
  cases h with
  | same hne => exact absurd ht hne
  | finish start rest => rfl

end Followed

namespace Unclosed

/-- The only symbol before an open index is its bracket. -/
theorem eq_leftBracket (h : t.Unclosed) {s : Symbol} (ht : t.token = .symbol s) :
    s = .leftBracket := by
  cases h with
  | word p start h =>
    rcases Token.ofPathText_cases p with hp | ⟨b, hp⟩ | hp
    all_goals
      rw [hp] at ht
      cases ht
  | bracket start hne h =>
    cases ht
    rfl

theorem not_of_symbol {s : Symbol} (ht : t.token = .symbol s) (hs : s ≠ .leftBracket) :
    ¬t.Unclosed :=
  fun hopen => hs (hopen.eq_leftBracket ht)

theorem operator (h : t.Unclosed) : Infix.ofToken? t.token = none := by
  cases h with
  | word p start h =>
    rcases Token.ofPathText_cases p with hp | ⟨b, hp⟩ | hp
    all_goals
      rw [hp]
      rfl
  | bracket start hne h => rfl

theorem ne_finish (h : t.Unclosed) : t.token ≠ .finish := by
  intro ht
  cases h with
  | word p start h =>
    rcases Token.ofPathText_cases p with hp | ⟨b, hp⟩ | hp
    all_goals
      rw [hp] at ht
      cases ht
  | bracket start hne h => cases ht

/-- After the word stands the bracket. -/
theorem advance_word (h : t.Unclosed) (ht : t.token ≠ .symbol .leftBracket)
    (hv : t.advance = .ok v) : v.Unclosed := by
  cases h with
  | @word p start rest h =>
    rcases h with ⟨digits, hne, hdigits, rfl⟩
    have hnext : next ('[' :: digits) = .ok ⟨.symbol .leftBracket, '[' :: digits, digits⟩ := rfl
    rw [Expr.advance_mk, hnext] at hv
    cases hv
    exact .bracket _ hne hdigits
  | bracket start hne h => exact absurd rfl ht

end Unclosed

/-- Digits are read as a number where something else begins. -/
theorem next_digits {digits rest : List Char} (hne : digits ≠ [])
    (hdigits : ∀ d ∈ digits, isDecimalDigit d = true) (hrest : Token.StopsNumber rest) :
    ∃ n, next (digits ++ rest) = .ok ⟨.number n, digits ++ rest, rest⟩ := by
  have hnumber := Token.readNumber?_whole hne hdigits hrest
  rcases List.exists_cons_of_ne_nil hne with ⟨d, ds, rfl⟩
  have hd := hdigits d List.mem_cons_self
  rw [List.cons_append] at hnumber ⊢
  refine ⟨⟨false, Text.readDigits (d :: ds), 0⟩, ?_⟩
  apply Token.next_of_read (Unicode.isBlank_of_isDecimalDigit hd)
  unfold Token.read
  rw [Token.readSymbol?_of_kind rfl hd, hnumber]

/-- After the bracket stand digits and the end of the text. -/
theorem Unclosed.advance_bracket (h : t.Unclosed) (ht : t.token = .symbol .leftBracket)
    (hv : t.advance = .ok v) : ∃ n, v.token = .number n ∧ v.rest = [] := by
  cases h with
  | word p start h =>
    rcases Token.ofPathText_cases p with hp | ⟨b, hp⟩ | hp
    all_goals
      rw [hp] at ht
      cases ht
  | bracket start hne h =>
    have hstops : Token.StopsNumber [] := by simp [Token.StopsNumber]
    rcases next_digits hne h hstops with ⟨n, hnext⟩
    rw [List.append_nil] at hnext
    rw [Expr.advance_mk, hnext] at hv
    cases hv
    exact ⟨n, rfl, rfl⟩

end Lexeme

/-! ## Tasks over the longer text -/

namespace Expr

variable {d : Nat} {task : Task} {e : Expr} {after t u v : Lexeme}

def Task.lexeme : Task → Lexeme
  | .operand _ t => t
  | .prefixed t => t
  | .postfixes _ _ t => t
  | .chain _ _ _ t => t

/-- The same task from another token on. -/
def Task.at (t : Lexeme) : Task → Task
  | .operand p _ => .operand p t
  | .prefixed _ => .prefixed t
  | .postfixes members e _ => .postfixes members e t
  | .chain p compared e _ => .chain p compared e t

/-- An operand that starts with a number ends after it where no operator follows. -/
theorem Derives.ends_after_number {p : Precedence} {n : Decimal} (h : Derives d (.operand p t) e u)
    (ht : t.token = .number n) (hv : t.advance = .ok v) (hlast : Infix.ofToken? v.token = none) :
    u = v := by
  cases h with
  | operand hfirst hchain =>
    cases hfirst with
    | leaf _ hu =>
      rw [hv] at hu
      cases hu
      cases hchain with
      | last => rfl
      | looser => rfl
      | filter hpipe =>
        rw [hpipe] at hlast
        cases hlast
      | operator hop =>
        rw [hop] at hlast
        cases hlast
    | negate h | not h | group h | path h =>
      rw [ht] at h
      cases h

/-- No derivation gets past an index that is open. -/
theorem Derives.unclosed (h : Derives d task e u) (hopen : task.lexeme.Unclosed) : u.Unclosed := by
  induction h with
  | operand hfirst hchain ihfirst ihchain => exact ihchain (ihfirst hopen)
  | negate ht hv h ih => exact absurd hopen (Lexeme.Unclosed.not_of_symbol ht (by simp))
  | not ht hv h ih => exact absurd hopen (Lexeme.Unclosed.not_of_symbol ht (by simp))
  | group ht hv h hw hx hafter ih ihafter =>
    exact absurd hopen (Lexeme.Unclosed.not_of_symbol ht (by simp))
  | @path d t v u s segments e ht hv hs hafter ih =>
    refine ih (Lexeme.Unclosed.advance_word (t := t) hopen ?_ hv)
    rw [ht]
    simp
  | @leaf d t u e ht hu =>
    refine Lexeme.Unclosed.advance_word (t := t) hopen ?_ hu
    intro hbracket
    rw [hbracket] at ht
    cases ht
  | bare hbracket hdot => exact hopen
  | index ht hv hkey hw hx hafter ihkey ihafter =>
    -- The key is a number up to the end of the text, where a closing bracket would have to stand.
    rcases Lexeme.Unclosed.advance_bracket hopen ht hv with ⟨n, hnumber, hrest⟩
    have hfinish : Lexeme.advance _ = .ok ⟨.finish, [], []⟩ := congrArg Lexeme.next hrest
    rw [hkey.ends_after_number hnumber hfinish rfl] at hw
    cases hw
  | noMember ht hsegments => exact absurd hopen (Lexeme.Unclosed.not_of_symbol ht (by simp))
  | dotted ht hsegments hafter ih =>
    exact absurd hopen (Lexeme.Unclosed.not_of_symbol ht (by simp))
  | member hafter ih => exact ih hopen
  | last ht => exact hopen
  | looser ht hp => exact hopen
  | filter ht hp hcall hafter ih => exact absurd hopen (Lexeme.Unclosed.not_of_symbol ht (by simp))
  | operator ht hfilter hp hcompared hv hright hafter ihright ihafter =>
    have hnone := Lexeme.Unclosed.operator hopen
    exact absurd (hnone.symm.trans ht) (by simp)

/-! ## Derivations over the longer text -/

theorem ne_finish_of_operator {token : Token} {op : Infix} (h : Infix.ofToken? token = some op) :
    token ≠ .finish := by
  rintro rfl
  cases h

theorem memberSegments_eq_ok {segments : List Segment} (h : memberSegments t = .ok (segments, u)) :
    ∃ v s, t.advance = .ok v ∧ v.token = .path s ∧ v.advance = .ok u ∧
      Path.split s = .ok segments := by
  unfold memberSegments at h
  rcases bind_eq_ok h with ⟨v, hv, h⟩
  split at h
  · next s hs =>
    rcases bind_eq_ok h with ⟨w, hw, h⟩
    split at h
    · next hsplit =>
      cases h
      exact ⟨v, s, hv, hs, hw, hsplit⟩
    · cases h
  · cases h

theorem memberSegments_followed (htail : Adjoins tail after) (hu : Lexeme.Followed tail after t u)
    (ht : t.token ≠ .finish) {segments : List Segment} (h : memberSegments t = .ok (segments, v)) :
    Lexeme.CarriesOver tail after v fun w => memberSegments u = .ok (segments, w) := by
  rcases memberSegments_eq_ok h with ⟨x, s, hx, hs, hv, hsplit⟩
  refine (hu.advance htail ht hx).bind ?_ ?_
  · intro hopen
    refine hopen.advance_word ?_ hv
    simp [hs]
  · intro y hy hxy
    refine (hy.advance htail (by simp [hs]) hv).imp ?_
    intro w hw
    simp [memberSegments, hxy, hy.token_eq hs, hw, hsplit, ok_bind]

theorem filterCall_followed (htail : Adjoins tail after) (hu : Lexeme.Followed tail after t u)
    (ht : t.token ≠ .finish) {call : FilterCall} (h : filterCall t = .ok (call, v)) :
    Lexeme.CarriesOver tail after v fun w => filterCall u = .ok (call, w) := by
  rcases bind_eq_ok h with ⟨⟨call', rest⟩, hread, h⟩
  rcases bind_eq_ok h with ⟨w, hw, h⟩
  cases h
  cases hu with
  | same hne =>
    refine (Lexeme.next_followed htail hw).imp ?_
    intro w hw
    unfold filterCall
    rw [FilterCall.read_followed htail.endsCall hread, ok_bind]
    dsimp only
    rw [hw]
    rfl
  | finish start rest => exact absurd rfl ht

/-- No derivation goes on from the end of a text. -/
theorem Derives.finish (h : Derives d task e u) (ht : task.lexeme.token = .finish) :
    u.token = .finish := by
  induction h with
  | operand hfirst hchain ihfirst ihchain => exact ihchain (ihfirst ht)
  | bare | last | looser => exact ht
  | member hafter ih => exact ih ht
  | negate h | not h | group h | path h | index h | noMember h | dotted h | filter h =>
    rw [Task.lexeme, h] at ht
    cases ht
  | leaf h | operator h =>
    rw [Task.lexeme] at ht
    rw [ht] at h
    cases h

/-- Whether a task that comes to the end of a text ends there also if the token `after` follows: no
operator goes on with it. -/
def Task.EndsBefore (after : Lexeme) : Task → Prop
  | .operand p _ | .chain p _ _ _ =>
    ∀ op, Infix.ofToken? after.token = some op → op.continues p = false
  | .prefixed _ | .postfixes _ _ _ => True

/-- What does not go on with a chain does not go on with a right operand in it either. -/
theorem Task.EndsBefore.right {op : Infix} {p : Precedence} {compared : Bool}
    (h : (Task.chain p compared e t).EndsBefore after) (hp : op.continues p = true) :
    (Task.operand op.precedence v).EndsBefore after := by
  intro op' hop'
  rw [Bool.eq_false_iff]
  intro hcontinues
  have hlooser := h op' hop'
  rw [continues_trans hp hcontinues] at hlooser
  cases hlooser

/-- A derivation is followed over the longer text, step by step. -/
theorem Derives.followed (h : Derives d task e v) (htail : Adjoins tail after)
    (hend : v.token = .finish → task.EndsBefore after)
    (hu : Lexeme.Followed tail after task.lexeme u) :
    Lexeme.CarriesOver tail after v fun w => Derives d (task.at u) e w := by
  induction h generalizing u with
  | operand hfirst hchain ihfirst ihchain =>
    refine (ihfirst (fun _ => trivial) hu).bind hchain.unclosed fun w hw hfirst' => ?_
    exact (ihchain hend hw).imp fun x hx => .operand hfirst' hx
  | negate ht hv h ih =>
    refine (hu.advance htail (by simp [Task.lexeme, ht]) hv).bind h.unclosed fun w hw hw' => ?_
    refine (ih (fun _ op _ => not_continues_unary op) hw).imp fun x hx => ?_
    exact .negate (hu.token_eq ht (by simp)) hw' hx
  | not ht hv h ih =>
    refine (hu.advance htail (by simp [Task.lexeme, ht]) hv).bind h.unclosed fun w hw hw' => ?_
    refine (ih (fun _ op _ => not_continues_unary op) hw).imp fun x hx => ?_
    exact .not (hu.token_eq ht (by simp)) hw' hx
  | group ht hv h hw hx hafter ih ihafter =>
    -- The operand ends at its bracket, so that no index is open at its start or at its end.
    have hclosed : ¬Lexeme.Unclosed _ := Lexeme.Unclosed.not_of_symbol hw (by simp)
    refine (hu.advance htail (by simp [Task.lexeme, ht]) hv).bind
      (fun hopen => absurd (h.unclosed hopen) hclosed) fun v' hfv hv' => ?_
    refine (ih (by simp [hw]) hfv).bind (fun hopen => absurd hopen hclosed) fun w' hfw hinner => ?_
    refine (hfw.advance htail (by simp [hw]) hx).bind hafter.unclosed fun x' hfx hx' => ?_
    refine (ihafter (fun _ => trivial) hfx).imp fun y hy => ?_
    exact .group (hu.token_eq ht (by simp)) hv' hinner (hfw.token_eq hw (by simp)) hx' hy
  | path ht hv hs hafter ih =>
    refine (hu.advance htail (by simp [Task.lexeme, ht]) hv).bind hafter.unclosed fun w hw hw' => ?_
    refine (ih (fun _ => trivial) hw).imp fun x hx => ?_
    exact .path (hu.token_eq ht (by simp)) hw' hs hx
  | @leaf d t v e ht hv =>
    have hne : t.token ≠ .finish := by
      intro hfinish
      rw [hfinish] at ht
      cases ht
    have htoken : u.token = t.token := hu.token_eq rfl hne
    exact (hu.advance htail hne hv).imp fun w hw => .leaf (htoken ▸ ht) hw
  | bare hbracket hdot =>
    -- At the end of the text before, the first token after it goes on no more than the end does.
    exact .inr ⟨u, hu, .bare (hu.token_ne hbracket htail.bracket) (hu.token_ne hdot htail.dot)⟩
  | index ht hv hkey hw hx hafter ihkey ihafter =>
    have hclosed : ¬Lexeme.Unclosed _ := Lexeme.Unclosed.not_of_symbol hw (by simp)
    refine (hu.advance htail (by simp [Task.lexeme, ht]) hv).bind
      (fun hopen => absurd (hkey.unclosed hopen) hclosed) fun v' hfv hv' => ?_
    refine (ihkey (by simp [hw]) hfv).bind (fun hopen => absurd hopen hclosed)
      fun w' hfw hkey' => ?_
    refine (hfw.advance htail (by simp [hw]) hx).bind hafter.unclosed fun x' hfx hx' => ?_
    refine (ihafter (fun _ => trivial) hfx).imp fun y hy => ?_
    exact .index (hu.token_eq ht (by simp)) hv' hkey' (hfw.token_eq hw (by simp)) hx' hy
  | noMember ht hsegments =>
    refine (memberSegments_followed htail hu (by simp [Task.lexeme, ht]) hsegments).imp ?_
    exact fun x hx => .noMember (hu.token_eq ht (by simp)) hx
  | dotted ht hsegments hafter ih =>
    refine (memberSegments_followed htail hu (by simp [Task.lexeme, ht]) hsegments).bind
      hafter.unclosed fun w hw hw' => ?_
    refine (ih (fun _ => trivial) hw).imp fun x hx => ?_
    exact .dotted (hu.token_eq ht (by simp)) hw' hx
  | member hafter ih => exact (ih (fun _ => trivial) hu).imp fun x hx => .member hx
  | @last d p compared e t ht =>
    refine .inr ⟨u, hu, ?_⟩
    by_cases hfinish : t.token = .finish
    · -- The chain ends before the token that follows, be it an operator or not.
      rw [hu.eq_after hfinish]
      cases hop : Infix.ofToken? after.token with
      | none => exact .last hop
      | some op => exact .looser hop (hend hfinish op hop)
    · have htoken : u.token = t.token := hu.token_eq rfl hfinish
      exact .last (htoken ▸ ht)
  | looser ht hp =>
    have htoken := hu.token_eq rfl (ne_finish_of_operator ht)
    exact .inr ⟨u, hu, .looser (htoken ▸ ht) hp⟩
  | filter ht hp hcall hafter ih =>
    refine (filterCall_followed htail hu (by simp [Task.lexeme, ht]) hcall).bind
      hafter.unclosed fun w hw hw' => ?_
    exact (ih hend hw).imp fun x hx => .filter (hu.token_eq ht (by simp)) hp hw' hx
  | operator ht hfilter hp hcompared hv hright hafter ihright ihafter =>
    have hne := ne_finish_of_operator ht
    have htoken := hu.token_eq rfl hne
    refine (hu.advance htail hne hv).bind (fun hopen => hafter.unclosed (hright.unclosed hopen))
      fun v' hfv hv' => ?_
    -- If the right operand comes to the end of the text, so does the chain.
    refine (ihright (fun hw => (hend (hafter.finish hw)).right hp) hfv).bind hafter.unclosed
      fun w' hfw hright' => ?_
    refine (ihafter hend hfw).imp fun x hx => ?_
    exact .operator (htoken ▸ ht) hfilter hp hcompared hv' hright' hx

/-- What is derived up to the end of a text is derived up to the token that follows it. -/
theorem Derives.followed_end (h : Derives d task e v) (hv : v.token = .finish)
    (htail : Adjoins tail after) (hend : task.EndsBefore after)
    (hu : Lexeme.Followed tail after task.lexeme u) : Derives d (task.at u) e after := by
  rcases h.followed htail (fun _ => hend) hu with hopen | ⟨w, hw, hderives⟩
  · exact absurd hv hopen.ne_finish
  · rwa [hw.eq_after hv] at hderives

/-- The first token of a text that is read to its end stands in the longer text. -/
theorem Derives.next_followed (h : Derives d task e v) (hv : v.token = .finish)
    (htail : Adjoins tail after) (ht : Lexeme.next cs = .ok task.lexeme) :
    ∃ u, Lexeme.Followed tail after task.lexeme u ∧ Lexeme.next (cs ++ tail) = .ok u := by
  rcases Lexeme.next_followed htail ht with hopen | hfollowed
  · exact absurd hv (h.unclosed hopen).ne_finish
  · exact hfollowed

/-- A text that is read as an expression is read the same way before a text that closes it off. -/
theorem parseChars_followed (h : parseChars d cs = .ok e) (htail : ClosesOff tail after) :
    ∃ t, Lexeme.next (cs ++ tail) = .ok t ∧ Derives d (.operand .lowest t) e after := by
  rcases parseChars_eq_ok_iff.1 h with ⟨t, v, ht, hderives, hv⟩
  rcases hderives.next_followed hv htail.toAdjoins ht with ⟨u, hfollowed, hu⟩
  have hend : (Task.operand .lowest t).EndsBefore after := by
    intro op hop
    rw [htail.operator] at hop
    cases hop
  exact ⟨u, hu, hderives.followed_end hv htail.toAdjoins hend hfollowed⟩

end Expr

end ReceiptTemplate
