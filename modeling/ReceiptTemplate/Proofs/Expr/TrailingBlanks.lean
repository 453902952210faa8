import ReceiptTemplate.Proofs.Expr.TextAfter

/-!
# Trailing blanks — reading over a text with blanks after it

Each reader of the lexer and of filter calls gives the same over a text and over the same text with
blanks after it, and leaves the blanks behind; where one fails, so does the other.  No blank completes
a symbol, goes on with a name or a number, or closes a quoted text.
-/

namespace ReceiptTemplate

open Unicode (isBlank isDecimalDigit)

/-- A text of blanks only. -/
def Blanks (ws : List Char) : Prop :=
  ∀ c ∈ ws, isBlank c = true

variable {ws : List Char}

/-! ## Runs of characters -/

theorem Blanks.head {c : Char} (hws : Blanks ws) (hc : c ∈ ws.head?) : isBlank c = true :=
  hws c (List.mem_of_mem_head? hc)

theorem Blanks.append {cs : List Char} (hcs : Blanks cs) (hws : Blanks ws) : Blanks (cs ++ ws) := by
  intro c hc
  rcases List.mem_append.1 hc with hc | hc
  · exact hcs c hc
  · exact hws c hc

theorem Blanks.dropWhile_append (hws : Blanks ws) (cs : List Char) :
    (ws ++ cs).dropWhile isBlank = cs.dropWhile isBlank :=
  List.dropWhile_append_of_pos hws

theorem Blanks.dropWhile (hws : Blanks ws) : ws.dropWhile isBlank = [] := by
  have happend := hws.dropWhile_append []
  rwa [List.append_nil] at happend

theorem dropWhile_append_of_not_blanks {cs : List Char} (hcs : ¬Blanks cs) (ws : List Char) :
    (cs ++ ws).dropWhile isBlank = cs.dropWhile isBlank ++ ws := by
  induction cs with
  | nil => exact absurd (fun c hc => by cases hc) hcs
  | cons c cs ih =>
    by_cases hc : isBlank c = true
    · have hrest : ¬Blanks cs := by
        intro hrest
        exact hcs (List.forall_mem_cons.2 ⟨hc, hrest⟩)
      simp [hc, ih hrest]
    · simp [hc]

/-- A run of characters other than blanks ends where the blanks begin. -/
theorem Blanks.span {p : Char → Bool} (hp : ∀ c, isBlank c = true → p c = false)
    (hws : Blanks ws) (cs : List Char) :
    (cs ++ ws).takeWhile p = cs.takeWhile p ∧ (cs ++ ws).dropWhile p = cs.dropWhile p ++ ws := by
  exact span_leaving (fun c hc => hp c (hws.head hc)) cs

/-- Blanks go on with no token, and they close no index. -/
theorem Blanks.stops (hws : Blanks ws) : Token.Stops ws :=
  fun _ hc => .inl (hws.head hc)

theorem Blanks.not_bracket (hws : Blanks ws) : ']' ∉ ws.head? := by
  intro hc
  exact absurd (hws.head hc) (by decide)

/-! ## Tokens -/

namespace Token

theorem quotedBody_cons {quote c : Char} (hc : c ≠ '\\') (cs : List Char) :
    quotedBody quote (c :: cs) =
      if c = quote then some ([], cs) else (quotedBody quote cs).map fun p => (c :: p.1, p.2) := by
  conv_lhs => unfold quotedBody
  split <;> simp_all

/-- Blanks do not close a quoted text. -/
theorem quotedBody_blanks (hws : Blanks ws) {quote : Char} (hquote : isBlank quote = false) :
    quotedBody quote ws = none := by
  induction ws with
  | nil => rfl
  | cons c ws ih =>
    have hc : c ≠ '\\' := by
      rintro rfl
      exact absurd (hws.head rfl) (by decide)
    have hne : c ≠ quote := by
      rintro rfl
      rw [hws.head rfl] at hquote
      cases hquote
    rw [quotedBody_cons hc, if_neg hne, ih fun d hd => hws d (List.mem_cons_of_mem c hd)]
    rfl

theorem quotedBody_leaving (hws : Blanks ws) {quote : Char} (hquote : isBlank quote = false)
    (cs : List Char) :
    quotedBody quote (cs ++ ws) = (quotedBody quote cs).map (leaving ws) := by
  have hescape {c : Char} {cs : List Char} (hnil : c = '\\' → ¬cs = [])
      (hcons : ∀ d ds, c = '\\' → ¬cs = d :: ds) : c ≠ '\\' := by
    rintro rfl
    cases cs with
    | nil => exact hnil rfl rfl
    | cons d ds => exact hcons d ds rfl rfl
  fun_induction quotedBody quote cs with
  | case1 => exact quotedBody_blanks hws hquote
  | case2 =>
    -- A backslash at the end takes the first blank, and no blank after it closes the text.
    cases ws with
    | nil => rfl
    | cons c ws =>
      have hrest := quotedBody_blanks (fun d hd => hws d (List.mem_cons_of_mem c hd)) hquote
      simp [quotedBody, hrest]
  | case3 cs => simp [quotedBody]
  | case4 c cs hc ih =>
    simp only [List.cons_append]
    rw [quotedBody, if_neg hc, ih, Option.map_map, Option.map_map]
    rfl
  | case5 cs hnil hcons =>
    rw [List.cons_append, quotedBody_cons (hescape hnil hcons), if_pos rfl]
    rfl
  | case6 c cs hnil hcons hc ih =>
    rw [List.cons_append, quotedBody_cons (hescape hnil hcons), if_neg hc, ih, Option.map_map,
      Option.map_map]
    rfl

end Token

/-- Blanks before a token are skipped. -/
theorem Lexeme.next_blanks (hws : Blanks ws) (cs : List Char) :
    next (ws ++ cs) = next cs := by
  unfold next
  rw [hws.dropWhile_append]

/-! ## Outcomes over both texts -/

/-- Related results, or an error on both sides. -/
inductive Fault.Agree {α β : Type} (R : α → β → Prop) : Except Fault α → Except Fault β → Prop
  | ok {a : α} {b : β} (h : R a b) : Agree R (.ok a) (.ok b)
  | error (fault fault' : Fault) : Agree R (.error fault) (.error fault')

namespace Fault.Agree

variable {α β α' β' : Type} {R : α → β → Prop} {S : α' → β' → Prop} {x : Except Fault α}
  {y : Except Fault β}

theorem bind (h : Agree R x y) {f : α → Except Fault α'} {g : β → Except Fault β'}
    (hfg : ∀ {a b}, R a b → Agree S (f a) (g b)) : Agree S (x >>= f) (y >>= g) := by
  cases h with
  | ok hab => exact hfg hab
  | error fault fault' => exact .error fault fault'

theorem map (h : Agree R x y) {f : α → α'} {g : β → β'} (hfg : ∀ {a b}, R a b → S (f a) (g b)) :
    Agree S (x.map f) (y.map g) := by
  cases h with
  | ok hab => exact .ok (hfg hab)
  | error fault fault' => exact .error fault fault'

end Fault.Agree

open Fault (Agree)

/-- What a reader gives over a text and over the same text with the blanks `ws` after it. -/
def Leaves {α : Type} (ws : List Char) (p q : α × List Char) : Prop :=
  q = leaving ws p

/-- The same token, and the same text after it but for blanks at its end. -/
structure SameToken (t u : Lexeme) : Prop where
  token : u.token = t.token
  rest : ∃ ws, Blanks ws ∧ u.rest = t.rest ++ ws

theorem Token.read_leaving (hws : Blanks ws) {cs : List Char} (hcs : cs ≠ []) :
    Agree (Leaves ws) (read cs) (read (cs ++ ws)) := by
  unfold read
  rw [readSymbol?_leaving hws.stops hcs, readNumber?_leaving hws.stops,
    readPath?_leaving hws.stops fun hmem => absurd hmem hws.not_bracket]
  cases readSymbol? cs with
  | some p => exact .ok rfl
  | none =>
    cases readNumber? cs with
    | some p => exact .ok rfl
    | none =>
      cases readPath? cs with
      | some p => exact .ok rfl
      | none =>
        cases cs with
        | nil => exact absurd rfl hcs
        | cons c tail =>
          by_cases hdot : c = '.'
          · simp only [Option.map_none, List.cons_append, if_pos hdot]
            exact .ok rfl
          · by_cases hquote : (c = '"' || c = '\'') = true
            · have hblank : isBlank c = false := by
                simp only [Bool.or_eq_true, decide_eq_true_eq] at hquote
                rcases hquote with rfl | rfl <;> decide
              simp only [Option.map_none, List.cons_append, if_neg hdot, if_pos hquote,
                quotedBody_leaving hws hblank]
              cases quotedBody c tail with
              | none => exact .error _ _
              | some p => exact .ok rfl
            · simp only [Option.map_none, List.cons_append, if_neg hdot, if_neg hquote]
              exact .error _ _

theorem Lexeme.next_leaving (hws : Blanks ws) (cs : List Char) :
    Agree SameToken (next cs) (next (cs ++ ws)) := by
  unfold next
  by_cases hcs : Blanks cs
  · -- Over both texts only the end is left.
    simp only [hcs.dropWhile, (hcs.append hws).dropWhile]
    exact .ok ⟨rfl, [], by simp [Blanks], rfl⟩
  · have hne : cs.dropWhile isBlank ≠ [] := by
      intro hnil
      exact hcs (List.dropWhile_eq_nil_iff.1 hnil)
    simp only [dropWhile_append_of_not_blanks hcs]
    have hread := Token.read_leaving hws hne
    generalize Token.read (cs.dropWhile isBlank) = x at hread ⊢
    generalize Token.read (cs.dropWhile isBlank ++ ws) = y at hread ⊢
    cases hread with
    | ok h =>
      cases h
      exact .ok ⟨rfl, ws, hws, rfl⟩
    | error fault fault' => exact .error fault fault'

theorem SameToken.advance {t u : Lexeme} (h : SameToken t u) :
    Agree SameToken t.advance u.advance := by
  rcases h.rest with ⟨ws, hws, hrest⟩
  rw [Lexeme.advance, Lexeme.advance, hrest]
  exact Lexeme.next_leaving hws t.rest

/-! ## Filter calls -/

namespace FilterCall

theorem isNameChar_of_isBlank {c : Char} (h : isBlank c = true) : isNameChar c = false := by
  have hname := Token.isNameChar_of_isBlank h
  simp only [Token.isNameChar, Bool.or_eq_false_iff] at hname
  simp only [isNameChar, Bool.or_eq_false_iff]
  exact hname.1

theorem isUnquotedChar_of_isBlank {c : Char} (h : isBlank c = true) :
    isUnquotedChar c = false := by
  simp [isUnquotedChar, h]

theorem readName_leaving (hws : Blanks ws) (cs : List Char) :
    Agree (Leaves ws) (readName cs) (readName (cs ++ ws)) := by
  unfold readName
  by_cases hcs : Blanks cs
  · simp only [hcs.dropWhile, (hcs.append hws).dropWhile]
    exact .error _ _
  · rcases hws.span (fun _ => isNameChar_of_isBlank) (cs.dropWhile isBlank) with ⟨htake, hdrop⟩
    simp only [dropWhile_append_of_not_blanks hcs, htake, hdrop]
    split
    · exact .error _ _
    · split
      · exact .ok rfl
      · exact .error _ _

theorem readArgument_leaving (hws : Blanks ws) (cs : List Char) :
    Agree (Leaves ws) (readArgument cs) (readArgument (cs ++ ws)) := by
  unfold readArgument
  by_cases hcs : Blanks cs
  · simp only [hcs.dropWhile, (hcs.append hws).dropWhile]
    exact .error _ _
  · rw [dropWhile_append_of_not_blanks hcs]
    cases hstart : cs.dropWhile isBlank with
    | nil => exact absurd (List.dropWhile_eq_nil_iff.1 hstart) hcs
    | cons c tail =>
      simp only [List.cons_append]
      split
      · next hquote =>
        have hblank : isBlank c = false := by
          simp only [Bool.or_eq_true, decide_eq_true_eq] at hquote
          rcases hquote with rfl | rfl <;> decide
        rw [Token.quotedBody_leaving hws hblank]
        cases Token.quotedBody c tail with
        | none => exact .error _ _
        | some p => exact .ok rfl
      · rcases hws.span (fun _ => isUnquotedChar_of_isBlank) (c :: tail) with ⟨htake, hdrop⟩
        rw [List.cons_append] at htake hdrop
        rw [htake, hdrop]
        split
        · exact .error _ _
        · exact .ok rfl

theorem readNamed_badArgument {cs tail value : List Char} {c : Char} {fault : Fault}
    (hb : cs.dropWhile isBlank = c :: tail) (hc : isArgumentStart c = true)
    (hr : tail.dropWhile isNameChar = ':' :: value) (ha : readArgument value = .error fault) :
    readNamed cs = .error fault := by
  rw [readNamed]
  split
  · simp_all
  · next c' tail' hb' =>
    rw [hb, List.cons.injEq] at hb'
    rcases hb' with ⟨rfl, rfl⟩
    rw [if_pos hc]
    split
    · next value' hr' =>
      rw [hr, List.cons.injEq] at hr'
      rcases hr' with ⟨-, rfl⟩
      split <;> simp_all
    · next hr' => exact absurd hr (hr' value)

/-- What follows the blanks before a name is found with the blanks at the end as well. -/
theorem dropWhile_blanks {cs tail : List Char} {c : Char}
    (hb : cs.dropWhile isBlank = c :: tail) (ws : List Char) :
    (cs ++ ws).dropWhile isBlank = c :: (tail ++ ws) := by
  have hcs : ¬Blanks cs := by
    intro hcs
    rw [hcs.dropWhile] at hb
    cases hb
  rw [dropWhile_append_of_not_blanks hcs, hb]
  rfl

theorem readNamed_leaving (hws : Blanks ws) (cs : List Char) :
    Agree (Leaves ws) (readNamed cs) (readNamed (cs ++ ws)) := by
  have hname (tail : List Char) := hws.span (fun _ => isNameChar_of_isBlank) tail
  -- An argument is read over both texts, or there is an error over both.
  have hargument (value : List Char) := readArgument_leaving hws value
  fun_induction readNamed cs with
  | case1 cs hb =>
    have hcs : Blanks cs := List.dropWhile_eq_nil_iff.1 hb
    have hnone : readNamed (cs ++ ws) = .ok ([], cs ++ ws) :=
      readNamed_of_no_name (by simp [(hcs.append hws).dropWhile])
    rw [hnone]
    exact .ok rfl
  | case2 cs c tail hb hc value hr fault ha =>
    have hr' : (tail ++ ws).dropWhile isNameChar = ':' :: (value ++ ws) := by
      rw [(hname tail).2, hr]
      rfl
    have hvalue := hargument value
    rw [ha] at hvalue
    cases hbad : readArgument (value ++ ws) with
    | error fault' =>
      rw [readNamed_badArgument (dropWhile_blanks hb ws) hc hr' hbad]
      exact .error _ _
    | ok p =>
      rw [hbad] at hvalue
      cases hvalue
  | case3 cs c tail hb hc name value hr argument rest ha ih =>
    have hr' : (tail ++ ws).dropWhile isNameChar = ':' :: (value ++ ws) := by
      rw [(hname tail).2, hr]
      rfl
    have hvalue := hargument value
    rw [ha] at hvalue
    cases hgood : readArgument (value ++ ws) with
    | error fault' =>
      rw [hgood] at hvalue
      cases hvalue
    | ok p =>
      rw [hgood] at hvalue
      cases hvalue with
      | ok h =>
        cases h
        rw [readNamed_value (dropWhile_blanks hb ws) hc hr' hgood, (hname tail).1]
        exact ih.map fun h => by cases h; rfl
  | case4 cs c tail hb hc name hr ih =>
    have hr' : ∀ value, (tail ++ ws).dropWhile isNameChar ≠ ':' :: value := by
      intro value hsplit
      rw [(hname tail).2] at hsplit
      rcases hws.stops.eq_cons (by decide) (by decide) (by decide) hsplit with ⟨rest, hrest, -⟩
      exact hr rest hrest
    rw [readNamed_flag (dropWhile_blanks hb ws) hc hr', (hname tail).1, (hname tail).2]
    exact ih.map fun h => by cases h; rfl
  | case5 cs c tail hb hc =>
    have hnone : readNamed (cs ++ ws) = .ok ([], cs ++ ws) := by
      apply readNamed_of_no_name
      rw [dropWhile_blanks hb ws]
      simpa using hc
    rw [hnone]
    exact .ok rfl

/-- The argument of a filter, if there is one. -/
def argument? (rest : List Char) : Except Fault (Option String × List Char) :=
  match rest with
  | ':' :: value => (readArgument value).map fun p => (some p.1, p.2)
  | rest => .ok (none, rest)

theorem argument?_of_ne {rest : List Char} (h : ∀ value, rest ≠ ':' :: value) :
    argument? rest = .ok (none, rest) := by
  unfold argument?
  split
  · next value => exact absurd rfl (h value)
  · rfl

theorem argument?_leaving (hws : Blanks ws) (cs : List Char) :
    Agree (Leaves ws) (argument? cs) (argument? (cs ++ ws)) := by
  by_cases hcolon : ∃ value, cs = ':' :: value
  · rcases hcolon with ⟨value, rfl⟩
    exact (readArgument_leaving hws value).map fun h => by cases h; rfl
  · have hcolon' : ∀ value, cs ++ ws ≠ ':' :: value := by
      intro value hsplit
      rcases hws.stops.eq_cons (by decide) (by decide) (by decide) hsplit with ⟨rest, hrest, -⟩
      exact hcolon ⟨rest, hrest⟩
    rw [argument?_of_ne fun value h => hcolon ⟨value, h⟩, argument?_of_ne hcolon']
    exact .ok rfl

theorem read_eq (cs : List Char) :
    read cs = readName cs >>= fun p => argument? p.2 >>= fun q =>
      (readNamed q.2).map fun r => (⟨String.ofList p.1, q.1, r.1⟩, r.2) := by
  unfold read
  cases readName cs with
  | error fault => rfl
  | ok p =>
    rcases p with ⟨name, rest⟩
    cases rest with
    | nil => rfl
    | cons c value =>
      by_cases hc : c = ':'
      · subst hc
        cases hvalue : readArgument value <;>
          simp [argument?, hvalue, Except.map, bind, Except.bind]
      · simp [argument?, hc, bind, Except.bind]

theorem read_leaving (hws : Blanks ws) (cs : List Char) :
    Agree (Leaves ws) (read cs) (read (cs ++ ws)) := by
  rw [read_eq, read_eq]
  refine (readName_leaving hws cs).bind ?_
  rintro p _ rfl
  refine (argument?_leaving hws p.2).bind ?_
  rintro q _ rfl
  exact (readNamed_leaving hws q.2).map fun h => by cases h; rfl

end FilterCall

end ReceiptTemplate
