import ReceiptTemplate.Proofs.Expr.ReadBack
import ReceiptTemplate.Proofs.Expr.Scanning

/-!
# Fault places — where a parse error points

The parser reads from the front of its source, so that wherever it stops a last part of the source
is left, and its fault says what stands there.  The error of a source therefore shows the source,
with the place where its cause stands or, for the limits of depth and of paths, without one.

A member name over the limits of paths is the exception.  Its error shows the member in place of the
source, and a place in it counts from the start of the member.
-/

namespace ReceiptTemplate

open Unicode (isBlank)

/-! ## What stands at a place -/

/-- What stands at the place where reading stopped for a cause. -/
inductive ParseCause.StandsAt : ParseCause → List Char → Prop
  | unexpectedEnd : StandsAt .unexpectedEnd []
  | unexpectedCharacter (c : Char) (tail : List Char) :
      StandsAt (.unexpectedCharacter c) (c :: tail)
  | unterminatedText {quote : Char} {tail : List Char} (hquote : IsQuote quote)
      (h : Token.quotedBody quote tail = none) : StandsAt .unterminatedText (quote :: tail)
  | unterminatedArgument {quote : Char} {tail : List Char} (hquote : IsQuote quote)
      (h : Token.quotedBody quote tail = none) : StandsAt .unterminatedArgument (quote :: tail)
  | missingArgument {rest : List Char} (h : rest.takeWhile FilterCall.isUnquotedChar = []) :
      StandsAt .missingArgument rest
  | missingFilterName {rest : List Char} (h : rest.takeWhile FilterCall.isNameChar = []) :
      StandsAt .missingFilterName rest
  | badFilterName {name rest : List Char} (h : rest.takeWhile FilterCall.isNameChar = name)
      (hname : FilterCall.isValidName name = false) :
      StandsAt (.badFilterName (String.ofList name)) rest
  | unexpectedToken {token : Token} {rest after : List Char}
      (h : Token.read rest = .ok (token, after)) : StandsAt (.unexpectedToken token.shown) rest
  | missingParenthesis {token : Token} {rest after : List Char}
      (h : Token.read rest = .ok (token, after)) (hne : token ≠ .symbol .rightParen) :
      StandsAt .missingParenthesis rest
  | missingBracket {token : Token} {rest after : List Char}
      (h : Token.read rest = .ok (token, after)) (hne : token ≠ .symbol .rightBracket) :
      StandsAt .missingBracket rest
  | missingMember {token : Token} {rest after : List Char}
      (h : Token.read rest = .ok (token, after)) (hne : ∀ p, token ≠ .path p) :
      StandsAt .missingMember rest
  | chainedComparison {token : Token} {op : Infix} {rest after : List Char}
      (h : Token.read rest = .ok (token, after)) (hop : Infix.ofToken? token = some op)
      (hcomparison : op.precedence = .comparison) : StandsAt .chainedComparison rest

/-! ## Faults of a source -/

/-- A token of the source, with what is left from it on. -/
structure Lexeme.Of (cs : List Char) (t : Lexeme) : Prop where
  start : t.start <:+ cs
  read : Token.read t.start = .ok (t.token, t.rest)

/-- The error of a path over the limits that stands as a member after a dot. -/
inductive ParseError.OfMember (cs : List Char) : ParseError → Prop
  | intro {t u : Lexeme} {p : String} {error : ParseError} (ht : t.Of cs)
      (hdot : t.token = .symbol .dot) (hu : t.advance = .ok u) (hp : u.token = .path p)
      (hsplit : Path.split p = .error error) : OfMember cs error

/-- A fault that lies in the source `cs`, read with a limit of levels. -/
inductive Fault.Within (limit : Nat) (cs : List Char) : Fault → Prop
  | at {cause : ParseCause} {rest : List Char} (hrest : rest <:+ cs) (h : cause.StandsAt rest) :
      Within limit cs (.at cause rest)
  | tooDeep : Within limit cs (.overall (.tooDeep limit))
  | path {t : Lexeme} {p : String} {error : ParseError} (ht : t.Of cs) (hp : t.token = .path p)
      (hsplit : Path.split p = .error error) : Within limit cs (.overall error.cause)
  | member {error : ParseError} (h : error.OfMember cs) : Within limit cs (.part error)

/-- A result with the property `P`, or a fault of the source. -/
inductive Fault.Placed {α : Type} (limit : Nat) (cs : List Char) (P : α → Prop) :
    Except Fault α → Prop
  | ok {a : α} (h : P a) : Placed limit cs P (.ok a)
  | error {fault : Fault} (h : fault.Within limit cs) : Placed limit cs P (.error fault)

section

variable {limit : Nat} {cs tail : List Char} {t : Lexeme}

theorem Lexeme.Of.mono (h : t.Of tail) (htail : tail <:+ cs) : t.Of cs :=
  ⟨h.start.trans htail, h.read⟩

theorem Lexeme.Of.rest (h : t.Of cs) : t.rest <:+ cs :=
  (Token.atHead_of_read h.read).suffix.trans h.start

theorem ParseError.OfMember.mono {error : ParseError} (h : error.OfMember tail)
    (htail : tail <:+ cs) : error.OfMember cs := by
  cases h with
  | intro ht hdot hu hp hsplit => exact .intro (ht.mono htail) hdot hu hp hsplit

theorem Fault.Within.mono {fault : Fault} (h : fault.Within limit tail) (htail : tail <:+ cs) :
    fault.Within limit cs := by
  cases h with
  | «at» hrest h => exact .at (hrest.trans htail) h
  | tooDeep => exact .tooDeep
  | path ht hp hsplit => exact .path (ht.mono htail) hp hsplit
  | member h => exact .member (h.mono htail)

namespace Fault.Placed

variable {α β : Type} {P : α → Prop} {Q : β → Prop} {x : Except Fault α}

theorem bind (h : Placed limit cs P x) {f : α → Except Fault β}
    (hf : ∀ a, x = .ok a → P a → Placed limit cs Q (f a)) : Placed limit cs Q (x >>= f) := by
  cases h with
  | ok ha => exact hf _ rfl ha
  | error hfault => exact .error hfault

theorem map (h : Placed limit cs P x) {f : α → β} (hf : ∀ a, P a → Q (f a)) :
    Placed limit cs Q (x.map f) := by
  cases h with
  | ok ha => exact .ok (hf _ ha)
  | error hfault => exact .error hfault

/-- What is read from a last part of the source is read from the source. -/
theorem mono {P' : α → Prop} (h : Placed limit tail P x) (htail : tail <:+ cs)
    (hP : ∀ a, P a → P' a) : Placed limit cs P' x := by
  cases h with
  | ok ha => exact .ok (hP _ ha)
  | error hfault => exact .error (hfault.mono htail)

end Fault.Placed

open Fault (Placed)

/-! ## Tokens and filter calls -/

theorem Lexeme.next_placed (limit : Nat) (cs : List Char) :
    Placed limit cs (Lexeme.Of cs) (Lexeme.next cs) := by
  have hstart : cs.dropWhile isBlank <:+ cs := List.dropWhile_suffix isBlank
  unfold next
  dsimp only
  generalize cs.dropWhile isBlank = start at hstart
  rcases Token.read_cases start with ⟨token, rest, hread, -⟩ | ⟨cause, hread, hnone⟩
  · rw [hread]
    exact .ok ⟨hstart, hread⟩
  · rw [hread]
    refine .error (.at hstart ?_)
    cases hnone with
    | character c tail => exact .unexpectedCharacter c tail
    | text hquote h => exact .unterminatedText hquote h

theorem Lexeme.Of.advance (h : t.Of cs) : Placed limit cs (Lexeme.Of cs) t.advance :=
  (Lexeme.next_placed limit t.rest).mono h.rest fun _ hu => hu.mono h.rest

namespace FilterCall

theorem readName_placed (limit : Nat) (cs : List Char) :
    Placed limit cs (fun p => p.2 <:+ cs) (readName cs) := by
  have hstart : cs.dropWhile isBlank <:+ cs := List.dropWhile_suffix isBlank
  unfold readName
  dsimp only
  split
  · next hname => exact .error (.at hstart (.missingFilterName (List.isEmpty_iff.1 hname)))
  · split
    · exact .ok ((List.dropWhile_suffix isNameChar).trans hstart)
    · next hvalid => exact .error (.at hstart (.badFilterName rfl (by simpa using hvalid)))

theorem readArgument_placed (limit : Nat) (cs : List Char) :
    Placed limit cs (fun p => p.2 <:+ cs) (readArgument cs) := by
  have hstart : cs.dropWhile isBlank <:+ cs := List.dropWhile_suffix isBlank
  unfold readArgument
  split
  · exact .error (.at List.nil_suffix (.missingArgument rfl))
  · next c tail hc =>
    rw [hc] at hstart
    split
    · next hquote =>
      have hc : IsQuote c := by simpa [IsQuote] using hquote
      split
      · next body rest hbody =>
        have hrest := (Token.suffix_of_quotedBody hbody).trans (List.suffix_cons c tail)
        exact .ok (hrest.trans hstart)
      · next hbody => exact .error (.at hstart (.unterminatedArgument hc hbody))
    · dsimp only
      split
      · next hword => exact .error (.at hstart (.missingArgument (List.isEmpty_iff.1 hword)))
      · exact .ok ((List.dropWhile_suffix isUnquotedChar).trans hstart)

theorem argument?_placed (limit : Nat) (cs : List Char) :
    Placed limit cs (fun p => p.2 <:+ cs) (argument? cs) := by
  unfold argument?
  split
  · next value =>
    have hvalue : value <:+ ':' :: value := List.suffix_cons ':' value
    refine Placed.map ?_ fun _ h => h
    exact (readArgument_placed limit value).mono hvalue fun _ h => h.trans hvalue
  · exact .ok List.suffix_rfl

theorem readNamed_placed (limit : Nat) (cs : List Char) :
    Placed limit cs (fun p => p.2 <:+ cs) (readNamed cs) := by
  -- What follows a name, its colon and its argument is left of the text.
  have htail {cs tail : List Char} {c : Char} (hb : cs.dropWhile isBlank = c :: tail) :
      tail.dropWhile isNameChar <:+ cs := by
    have hstart : c :: tail <:+ cs := by
      rw [← hb]
      exact List.dropWhile_suffix isBlank
    exact ((List.dropWhile_suffix isNameChar).trans (List.suffix_cons c tail)).trans hstart
  have hvalue {cs tail value : List Char} {c : Char} (hb : cs.dropWhile isBlank = c :: tail)
      (hr : tail.dropWhile isNameChar = ':' :: value) : value <:+ cs := by
    have hcolon := htail hb
    rw [hr] at hcolon
    exact (List.suffix_cons ':' value).trans hcolon
  fun_induction readNamed cs with
  | case1 cs hb => exact .ok List.suffix_rfl
  | case2 cs c tail hb hc value hr fault ha =>
    have hargument := readArgument_placed limit value
    rw [ha] at hargument
    cases hargument with
    | error hfault => exact .error (hfault.mono (hvalue hb hr))
  | case3 cs c tail hb hc name value hr argument rest ha ih =>
    have hargument := readArgument_placed limit value
    rw [ha] at hargument
    cases hargument with
    | ok hrest =>
      have hsuffix := hrest.trans (hvalue hb hr)
      exact (ih.mono hsuffix fun _ h => h.trans hsuffix).map fun _ h => h
  | case4 cs c tail hb hc name hr ih =>
    have hsuffix := htail hb
    exact (ih.mono hsuffix fun _ h => h.trans hsuffix).map fun _ h => h
  | case5 cs c tail hb hc => exact .ok List.suffix_rfl

theorem read_placed (limit : Nat) (cs : List Char) :
    Placed limit cs (fun p => p.2 <:+ cs) (read cs) := by
  rw [read_eq]
  refine (readName_placed limit cs).bind ?_
  intro p _ hp
  refine ((argument?_placed limit p.2).mono hp fun _ h => h.trans hp).bind ?_
  intro q _ hq
  refine Placed.map ?_ fun _ h => h
  exact (readNamed_placed limit q.2).mono hq fun _ h => h.trans hq

end FilterCall

/-! ## Levels of the parser -/

namespace Expr

variable {d : Nat}

/-- A tree, say, and the token after it, which is one of the source. -/
def EndsIn {α : Type} (cs : List Char) (p : α × Lexeme) : Prop :=
  p.2.Of cs

theorem expect_placed {s : Symbol} {cause : ParseCause}
    (hcause : ∀ {token : Token} {rest after : List Char}, Token.read rest = .ok (token, after) →
      token ≠ .symbol s → cause.StandsAt rest) (h : t.Of cs) :
    Placed limit cs (Lexeme.Of cs) (expect s cause t) := by
  unfold expect
  split
  · exact h.advance
  · next hne => exact .error (.at h.start (hcause h.read hne))

theorem ofPath_placed {p : String} (h : t.Of cs) (hp : t.token = .path p) :
    Placed limit cs (fun _ => True) (ofPath p) := by
  unfold ofPath
  split
  · exact .ok trivial
  · next hsplit => exact .error (.path h hp hsplit)

theorem literal_placed (h : t.Of cs) : Placed limit cs (EndsIn cs) (literal t) := by
  have hleaf (e : Expr) : Placed limit cs (EndsIn cs) (t.advance.map fun t => (e, t)) :=
    h.advance.map fun _ hu => hu
  have hunexpected : Placed limit cs (EndsIn (α := Expr) cs)
      (.error (.at (.unexpectedToken t.token.shown) t.start)) :=
    .error (.at h.start (.unexpectedToken h.read))
  unfold literal
  cases htoken : t.token with
  | number n => exact hleaf (.number n)
  | text s => exact hleaf (.text s)
  | bool b => exact hleaf (.bool b)
  | null => exact hleaf .null
  | path p =>
    rw [htoken] at hunexpected
    exact hunexpected
  | symbol s =>
    rw [htoken] at hunexpected
    exact hunexpected
  | finish =>
    have hend : t.start = [] := by
      have hread := h.read
      rw [htoken] at hread
      exact (Token.atHead_of_read hread).eq_nil
    refine .error (.at h.start ?_)
    rw [hend]
    exact .unexpectedEnd

theorem memberSegments_placed (h : t.Of cs) (hdot : t.token = .symbol .dot) :
    Placed limit cs (EndsIn cs) (memberSegments t) := by
  unfold memberSegments
  refine h.advance.bind ?_
  intro u hu hof
  split
  · next p hp =>
    refine hof.advance.bind ?_
    intro v _ hv
    split
    · exact .ok hv
    · next hsplit => exact .error (.member (.intro h hdot hu hp hsplit))
  · next hne => exact .error (.at hof.start (.missingMember hof.read hne))

theorem filterCall_placed (h : t.Of cs) : Placed limit cs (EndsIn cs) (filterCall t) := by
  unfold filterCall
  have hread := FilterCall.read_placed limit t.rest
  refine (hread.mono h.rest fun _ hrest => hrest.trans h.rest).bind ?_
  intro p _ hp
  refine ((Lexeme.next_placed limit p.2).mono hp fun _ hu => hu.mono hp).bind ?_
  intro u _ hu
  exact .ok hu

/-- What the parser does with `d` levels stays in the source. -/
structure LevelsPlaced (limit : Nat) (cs : List Char) (d : Nat) : Prop where
  operand : ∀ p {t : Lexeme}, t.Of cs → Placed limit cs (EndsIn cs) (operand limit d p t)
  postfixes : ∀ members e {t : Lexeme}, t.Of cs →
    Placed limit cs (EndsIn cs) (postfixes limit d members e t)
  chain : ∀ p compared e {t : Lexeme}, t.Of cs →
    Placed limit cs (EndsIn cs) (chain limit d p compared e t)

namespace LevelsPlaced

theorem prefixed (hd : LevelsPlaced limit cs d) (h : t.Of cs) :
    Placed limit cs (EndsIn cs) (prefixed limit d t) := by
  unfold Expr.prefixed
  split
  · refine h.advance.bind ?_
    intro u _ hu
    refine (hd.operand .unary hu).bind ?_
    intro q _ hq
    exact .ok hq
  · refine h.advance.bind ?_
    intro u _ hu
    refine (hd.operand .unary hu).bind ?_
    intro q _ hq
    exact .ok hq
  · refine h.advance.bind ?_
    intro u _ hu
    refine (hd.operand .lowest hu).bind ?_
    intro q _ hq
    refine (expect_placed .missingParenthesis hq).bind ?_
    intro v _ hv
    exact hd.postfixes [] q.1 hv
  · next s hs =>
    refine h.advance.bind ?_
    intro u _ hu
    refine (ofPath_placed h hs).bind ?_
    intro e _ _
    exact hd.postfixes [] e hu
  · exact literal_placed h

theorem operand_succ (hd : LevelsPlaced limit cs d) (p : Precedence) (h : t.Of cs) :
    Placed limit cs (EndsIn cs) (Expr.operand limit (d + 1) p t) := by
  rw [Expr.operand_succ]
  refine (hd.prefixed h).bind ?_
  intro q _ hq
  exact hd.chain p false q.1 hq

theorem postfixes_succ (hd : LevelsPlaced limit cs d) (members : List Segment) (e : Expr)
    (h : t.Of cs) : Placed limit cs (EndsIn cs) (Expr.postfixes limit (d + 1) members e t) := by
  cases members with
  | cons s members =>
    rw [postfixes.eq_3]
    exact hd.postfixes members (member e s) h
  | nil =>
    rw [postfixes.eq_4]
    split
    · refine h.advance.bind ?_
      intro u _ hu
      refine (hd.operand .lowest hu).bind ?_
      intro q _ hq
      refine (expect_placed .missingBracket hq).bind ?_
      intro v _ hv
      exact hd.postfixes [] (.index e q.1 false) hv
    · next hdot =>
      refine (memberSegments_placed h hdot).bind ?_
      rintro ⟨segments, u⟩ _ hu
      cases segments with
      | nil => exact .ok hu
      | cons s members => exact hd.postfixes members (member e s) hu
    · exact .ok h

theorem chain_succ (hd : LevelsPlaced limit cs d) (p : Precedence) (compared : Bool) (e : Expr)
    (h : t.Of cs) : Placed limit cs (EndsIn cs) (Expr.chain limit (d + 1) p compared e t) := by
  rw [Expr.chain]
  split
  · exact .ok h
  · next op hop =>
    split
    · exact .ok h
    · split
      · next hcompared =>
        exact .error (.at h.start (.chainedComparison h.read hop hcompared.1))
      · dsimp only
        split
        · refine (filterCall_placed h).bind ?_
          intro q _ hq
          exact hd.chain p false (.filter q.1 e) hq
        · refine h.advance.bind ?_
          intro u _ hu
          refine (hd.operand op.precedence hu).bind ?_
          intro q _ hq
          exact hd.chain p _ (op.apply e q.1) hq

theorem zero (limit : Nat) (cs : List Char) : LevelsPlaced limit cs 0 := by
  refine ⟨?_, ?_, ?_⟩
  · intro p t h
    rw [operand.eq_1]
    exact .error .tooDeep
  · intro members e t h
    cases members with
    | cons s members =>
      rw [postfixes.eq_2]
      exact .error .tooDeep
    | nil =>
      rw [postfixes.eq_1]
      split
      · refine h.advance.bind ?_
        intro u _ _
        exact .error .tooDeep
      · next hdot =>
        refine (memberSegments_placed h hdot).bind ?_
        intro q _ hq
        dsimp only
        split
        · exact .ok hq
        · exact .error .tooDeep
      · exact .ok h
  · intro p compared e t h
    rw [Expr.chain]
    split
    · exact .ok h
    · next op hop =>
      split
      · exact .ok h
      · split
        · next hcompared =>
          exact .error (.at h.start (.chainedComparison h.read hop hcompared.1))
        · exact .error .tooDeep

end LevelsPlaced

theorem levelsPlaced (limit : Nat) (cs : List Char) (d : Nat) : LevelsPlaced limit cs d := by
  induction d with
  | zero => exact .zero limit cs
  | succ d ih =>
    exact ⟨fun p _ h => ih.operand_succ p h, fun members e _ h => ih.postfixes_succ members e h,
      fun p compared e _ h => ih.chain_succ p compared e h⟩

theorem parseChars_placed (depth : Nat) (cs : List Char) :
    Placed depth cs (fun _ => True) (parseChars depth cs) := by
  unfold parseChars
  refine (Lexeme.next_placed depth cs).bind ?_
  intro t _ ht
  refine ((levelsPlaced depth cs depth).operand .lowest ht).bind ?_
  intro q _ hq
  dsimp only
  split
  · exact .ok trivial
  · exact .error (.at hq.start (.unexpectedToken hq.read))

end Expr
end

/-! ## Members over the limits of paths -/

/-- The error of a path shows no more than the path, and its place lies in the path. -/
theorem Path.length_of_split {p : String} {error : ParseError} (h : split p = .error error) :
    error.expression.length ≤ p.length ∧ ∀ n ∈ error.position, n ≤ p.length := by
  unfold split at h
  dsimp only at h
  split at h
  · cases h
    refine ⟨?_, nofun⟩
    rw [← String.length_toList, String.toList_ofList, ← String.length_toList, List.length_take]
    exact Nat.min_le_right ..
  · cases hsplit : splitFrom p.toList with
    | ok segments =>
      rw [hsplit] at h
      cases h
    | error fault =>
      rw [hsplit] at h
      cases h
      rcases eq_indexTooLarge_of_splitFrom hsplit with ⟨i, rest, rfl⟩
      rw [Fault.toError, String.ofList_toList]
      refine ⟨Nat.le_refl _, ?_⟩
      intro n hn
      cases hn
      rw [← String.length_toList]
      exact Nat.sub_le ..

section

variable {limits : Expr.Limits} {source : String} {error : ParseError}

/-- A member is shorter than its source, which has a dot before it. -/
theorem ParseError.OfMember.length_lt {cs : List Char} (h : error.OfMember cs) :
    error.expression.length < cs.length ∧ ∀ n ∈ error.position, n < cs.length := by
  cases h with
  | @intro t u p _ ht hdot hu hp hsplit =>
    have hne : t.start ≠ [] := by
      intro hnil
      have hread := ht.read
      rw [hnil, hdot] at hread
      cases hread
    have hdotted : t.rest.length < t.start.length :=
      (Token.atHead_of_read ht.read).length_lt hne
    have hu : u.Of t.rest := by
      have hnext := Lexeme.next_placed 0 t.rest
      rw [show Lexeme.next t.rest = .ok u from hu] at hnext
      cases hnext with
      | ok hof => exact hof
    have hpath : p.length ≤ u.start.length := by
      have hread := hu.read
      rw [hp] at hread
      rw [← (Token.atHead_of_read hread).path_append, List.length_append, String.length_toList]
      exact Nat.le_add_right ..
    have hrest := hu.start.length_le
    have hsource := ht.start.length_le
    rcases Path.length_of_split hsplit with ⟨hshown, hplace⟩
    refine ⟨by omega, ?_⟩
    intro n hn
    have hle := hplace n hn
    omega

theorem ParseError.OfMember.expression_ne (h : error.OfMember source.toList) :
    error.expression ≠ source := by
  intro heq
  have hlt := h.length_lt.1
  rw [heq, String.length_toList] at hlt
  exact Nat.lt_irrefl _ hlt

/-! ## Places in a source -/

/-- The error shows the source, and its place is where its cause stands.  An error of a limit has no
place. -/
inductive ParseError.PointsInto (limits : Expr.Limits) (source : String) : ParseError → Prop
  | at {cause : ParseCause} {before rest : List Char} (hsource : source.toList = before ++ rest)
      (h : cause.StandsAt rest) : PointsInto limits source ⟨cause, some before.length, source⟩
  | tooDeep : PointsInto limits source ⟨.tooDeep limits.depth, none, source⟩
  | path {t : Lexeme} {p : String} {error : ParseError} (ht : t.Of source.toList)
      (hp : t.token = .path p) (hsplit : Path.split p = .error error) :
      PointsInto limits source ⟨error.cause, none, source⟩

theorem ParseError.PointsInto.position_le (h : error.PointsInto limits source) :
    ∀ n ∈ error.position, n ≤ source.length := by
  intro n hn
  cases h with
  | «at» hsource h =>
    cases hn
    rw [← String.length_toList, hsource, List.length_append]
    exact Nat.le_add_right ..
  | tooDeep => cases hn
  | path ht hp hsplit => cases hn

theorem ParseError.PointsInto.expression_eq (h : error.PointsInto limits source) :
    error.expression = source := by
  cases h <;> rfl

theorem Fault.Within.toError {fault : Fault} (h : fault.Within limits.depth source.toList) :
    (fault.toError source.toList).PointsInto limits source ∨
      (fault.toError source.toList).OfMember source.toList := by
  cases h with
  | @«at» cause rest hrest h =>
    rcases hrest with ⟨before, hsource⟩
    have hplace : source.toList.length - rest.length = before.length := by
      rw [← hsource, List.length_append]
      omega
    rw [Fault.toError, hplace, String.ofList_toList]
    exact .inl (.at hsource.symm h)
  | tooDeep =>
    rw [Fault.toError, String.ofList_toList]
    exact .inl .tooDeep
  | path ht hp hsplit =>
    rw [Fault.toError, String.ofList_toList]
    exact .inl (.path ht hp hsplit)
  | member h => exact .inr h

/-- The error of a source shows the source and points to where its cause stands in it, unless it is
the error of a member over the limits of paths, which shows the member.  Its place is in any case
one of the source. -/
theorem Expr.place_of_parse (hblank : ¬Text.isAllBlank source = true)
    (hlength : source.length ≤ limits.length) (h : Expr.parse limits source = .error error) :
    (∀ n ∈ error.position, n ≤ source.length) ∧
      (error.expression = source → error.PointsInto limits source) ∧
      (error.expression ≠ source ↔ error.OfMember source.toList) := by
  have hplaced := Expr.parseChars_placed limits.depth source.toList
  have hplace : error.PointsInto limits source ∨ error.OfMember source.toList := by
    rw [Expr.parse_eq hblank hlength] at h
    cases hparse : Expr.parseChars limits.depth source.toList with
    | ok e =>
      rw [hparse] at h
      cases h
    | error fault =>
      rw [hparse] at h hplaced
      cases h
      cases hplaced with
      | error hfault => exact hfault.toError
  rcases hplace with hinto | hmember
  · refine ⟨hinto.position_le, fun _ => hinto, ?_, ?_⟩
    · intro hne
      exact absurd hinto.expression_eq hne
    · intro hmember
      exact absurd hinto.expression_eq hmember.expression_ne
  · refine ⟨?_, ?_, ?_⟩
    · intro n hn
      have hlt := hmember.length_lt.2 n hn
      rw [String.length_toList] at hlt
      exact Nat.le_of_lt hlt
    · intro heq
      exact absurd heq hmember.expression_ne
    · exact ⟨fun _ => hmember, fun _ => hmember.expression_ne⟩

/-- The index of this member is over the limit. -/
theorem Expr.memberSegments_large_index :
    Expr.memberSegments ⟨.symbol .dot, ".c[99999]".toList, "c[99999]".toList⟩
      = .error (.part ⟨.indexTooLarge 99999 10000, some 1, "c[99999]"⟩) := by
  have hne : "99999".toList ≠ [] := List.cons_ne_nil _ _
  have hdigits : ∀ d ∈ "99999".toList, Unicode.isDecimalDigit d = true :=
    List.all_eq_true.1 (by decide)
  let path : PathText := ⟨['c'], by decide, [.index "99999".toList hne hdigits]⟩
  have hnext : Lexeme.next "c[99999]".toList = .ok ⟨.path "c[99999]", "c[99999]".toList, []⟩ :=
    Token.spells_pathText path [] (by simp [Token.EndsWord])
  have hsplit : Path.split "c[99999]" = .error ⟨.indexTooLarge 99999 10000, some 1, "c[99999]"⟩ := by
    have hstart : PathText.InLimits ⟨['c'], by decide, []⟩ := ⟨by decide, by simp⟩
    have hvalue : Text.readDigits "99999".toList = 99999 := rfl
    have hlarge : Path.maxIndex < Text.readDigits "99999".toList := by
      rw [hvalue, Path.maxIndex]
      omega
    exact Path.split_of_largeIndex hstart hne hdigits hlarge (by decide) rfl
  have hfinish : Lexeme.next [] = .ok ⟨.finish, [], []⟩ := rfl
  unfold Expr.memberSegments
  rw [Expr.advance_mk, hnext, Expr.ok_bind]
  dsimp only
  rw [Expr.advance_mk, hfinish, Expr.ok_bind, hsplit]

/-- The group is read, and its member is refused for its index. -/
theorem Expr.parse_group_member :
    Expr.parse .standard "(a).c[99999]"
      = .error ⟨.indexTooLarge 99999 10000, some 1, "c[99999]"⟩ := by
  have hopen : Lexeme.next "(a).c[99999]".toList
      = .ok ⟨.symbol .leftParen, "(a).c[99999]".toList, "a).c[99999]".toList⟩ := rfl
  have ha : Expr.IsPath "a" := Expr.IsMember.isPath ⟨by decide, by decide, by simp [Expr.IsKeyword]⟩
  have hends : Token.EndsWord ").c[99999]".toList := Token.endsWord_cons (.inr (.inl rfl)) _
  have hname : Lexeme.next "a).c[99999]".toList
      = .ok ⟨.path "a", "a).c[99999]".toList, ").c[99999]".toList⟩ :=
    Token.spells_pathText ⟨['a'], by decide, []⟩ _ hends
  have hclose : Lexeme.next ").c[99999]".toList
      = .ok ⟨.symbol .rightParen, ").c[99999]".toList, ".c[99999]".toList⟩ := rfl
  have hdot : Lexeme.next ".c[99999]".toList
      = .ok ⟨.symbol .dot, ".c[99999]".toList, "c[99999]".toList⟩ := rfl
  have hmember := Expr.memberSegments_large_index
  have hpath := Expr.ofPath_of_isPath ha
  have hinner : Expr.operand 50 49 .lowest
      ⟨.path "a", "a).c[99999]".toList, ").c[99999]".toList⟩
      = .ok (.path "a", ⟨.symbol .rightParen, ").c[99999]".toList, ".c[99999]".toList⟩) := by
    rw [Expr.operand_succ, Expr.prefixed_of_path rfl, Expr.advance_mk, hclose, Expr.ok_bind, hpath,
      Expr.ok_bind, Expr.postfixes_of_other (by decide) (by decide), Expr.ok_bind,
      Expr.chain_of_none rfl]
  have hchars : Expr.parseChars 50 "(a).c[99999]".toList
      = .error (.part ⟨.indexTooLarge 99999 10000, some 1, "c[99999]"⟩) := by
    rw [Expr.parseChars, hopen, Expr.ok_bind, Expr.operand_succ, Expr.prefixed_of_leftParen rfl,
      Expr.advance_mk, hname, Expr.ok_bind, hinner, Expr.ok_bind, Expr.expect, if_pos rfl,
      Expr.advance_mk, hdot, Expr.ok_bind, Expr.postfixes_of_dot_error rfl hmember]
    rfl
  have hblank : ¬Text.isAllBlank "(a).c[99999]" = true := by decide
  rw [Expr.parse_eq hblank (by decide), show Expr.Limits.standard.depth = 50 from rfl, hchars]
  rfl

/-- The index of the member `c[99999]` is over the limit, and the error shows the member only. -/
theorem Expr.place_of_parse_member :
    ¬Text.isAllBlank "(a).c[99999]" = true ∧
      "(a).c[99999]".length ≤ Expr.Limits.standard.length ∧
      Expr.parse .standard "(a).c[99999]"
        = .error ⟨.indexTooLarge 99999 10000, some 1, "c[99999]"⟩ ∧
      ParseError.OfMember "(a).c[99999]".toList
        ⟨.indexTooLarge 99999 10000, some 1, "c[99999]"⟩ := by
  have hblank : ¬Text.isAllBlank "(a).c[99999]" = true := by decide
  have hlength : "(a).c[99999]".length ≤ Expr.Limits.standard.length := by decide
  refine ⟨hblank, hlength, Expr.parse_group_member, ?_⟩
  exact (Expr.place_of_parse hblank hlength Expr.parse_group_member).2.2.1 (by decide)

end
end ReceiptTemplate
