import ReceiptTemplate.Proofs.Expr.ParserStep
import ReceiptTemplate.Proofs.Expr.Word

/-!
# Bare paths — sources that are one path and nothing else

The lexer reads a bare path as a single token, so that the parser comes to the same tree, and to the
same fault of a path over the limits, as `parsePath` does without it.  The parser spends one level of
its budget on the way; a budget without levels is the only one with which the two differ.
-/

namespace ReceiptTemplate

/-! ## Why a path is refused -/

/-- The causes that lie in the limits of paths. -/
def ParseCause.IsPathLimit (cause : ParseCause) : Prop :=
  (∃ n, cause = .pathTooLong n Path.maxLength) ∨ ∃ n, cause = .indexTooLarge n Path.maxIndex

namespace Path

theorem eq_error_of_map {α β ε : Type} {x : Except ε α} {f : α → β} {fault : ε}
    (h : x.map f = .error fault) : x = .error fault := by
  cases x with
  | error fault' =>
    cases h
    rfl
  | ok a => cases h

theorem eq_indexTooLarge_of_splitFrom {cs : List Char} {fault : Fault}
    (h : splitFrom cs = .error fault) : ∃ n rest, fault = .at (.indexTooLarge n maxIndex) rest := by
  fun_induction splitFrom cs with
  | case1 => cases h
  | case2 c tail hsegment ih => exact ih h
  | case3 c tail s rest hsegment ih => exact ih (eq_error_of_map h)
  | case4 c tail n rest hsegment hlarge =>
    cases h
    exact ⟨n, c :: tail, rfl⟩
  | case5 c tail n rest hsegment hlarge ih => exact ih (eq_error_of_map h)

theorem isPathLimit_of_split {path : String} {error : ParseError} (h : split path = .error error) :
    error.cause.IsPathLimit := by
  unfold split at h
  dsimp only at h
  split at h
  · cases h
    exact .inl ⟨_, rfl⟩
  · cases hsplit : splitFrom path.toList with
    | ok segments =>
      rw [hsplit] at h
      cases h
    | error fault =>
      rw [hsplit] at h
      cases h
      rcases eq_indexTooLarge_of_splitFrom hsplit with ⟨n, rest, rfl⟩
      exact .inr ⟨n, rfl⟩

end Path

/-! ## The token of a bare path -/

namespace Token

theorem pathTail_append (cs : List Char) : (pathTail cs).1 ++ (pathTail cs).2 = cs := by
  fun_induction pathTail cs with
  | case1 c tail hstart more ih =>
    rw [List.append_assoc, ih, List.cons_append, List.cons_append, nameBody_append]
  | case2 c tail hstart => rfl
  | case3 tail index rest hindex more ih =>
    rw [List.append_assoc, ih, bracketIndex?_append hindex]
  | case4 tail hindex => rfl
  | case5 cs hdot hbracket => rfl

/-- Reading a path takes nothing but its own characters away. -/
theorem readPath?_append {cs p rest : List Char} (h : readPath? cs = some (p, rest)) :
    p ++ rest = cs ∧ ∃ c ∈ cs.head?, isNameStart c = true := by
  cases cs with
  | nil => cases h
  | cons c cs =>
    by_cases hstart : isNameStart c = true
    · simp only [readPath?, if_pos hstart, Option.some.injEq, Prod.mk.injEq] at h
      rcases h with ⟨rfl, rfl⟩
      refine ⟨?_, c, rfl, hstart⟩
      rw [List.cons_append, List.cons_append, List.append_assoc, pathTail_append, nameBody_append]
    · simp [readPath?, hstart] at h

end Token

namespace Expr

open Unicode (isBlank isDecimalDigit)
open Token (isNameStart)

variable {limits : Limits} {source : String}

theorem isSimplePath_pathText {t : PathText} (hpath : Token.ofPathText t.text = .path t.text) :
    isSimplePath t.text = true := by
  have hread : Token.readPath? (t.chars ++ []) = some (t.chars, []) :=
    Token.readPath?_append_of_stopsPath t (by simp [Token.StopsPath])
  rw [List.append_nil] at hread
  unfold isSimplePath
  rw [PathText.text, String.toList_ofList, hread]
  exact decide_eq_true hpath

/-- A bare path starts like a name, and the lexer reads it as one token. -/
theorem token_of_isSimplePath (h : isSimplePath source = true) :
    (∃ c ∈ source.toList.head?, isNameStart c = true) ∧
      Lexeme.next source.toList = .ok ⟨.path source, source.toList, []⟩ := by
  unfold isSimplePath at h
  split at h
  · next p hread =>
    rcases Token.readPath?_append hread with ⟨happend, c, hhead, hstart⟩
    rw [List.append_nil] at happend
    subst happend
    rw [String.ofList_toList, decide_eq_true_eq] at h
    refine ⟨⟨c, hhead, hstart⟩, ?_⟩
    obtain ⟨cs, hsource⟩ : ∃ cs, source.toList = c :: cs := List.head?_eq_some_iff.1 hhead
    rw [hsource] at hread ⊢
    apply Token.next_of_read (Token.isBlank_of_isNameChar (Token.isNameChar_of_isNameStart hstart))
    -- A name starts no symbol and no number, so the path is what is read.
    unfold Token.read
    rw [Token.readSymbol?_of_kind rfl hstart,
      Token.readNumber?_of_not_digit (Token.isDecimalDigit_of_isNameStart hstart), hread, ← hsource]
    simp only [String.ofList_toList, h]
  · cases h

theorem not_isAllBlank_of_isSimplePath (h : isSimplePath source = true) :
    ¬Text.isAllBlank source = true := by
  rcases (token_of_isSimplePath h).1 with ⟨c, hhead, hstart⟩
  intro hblank
  have hc : isBlank c = true := List.all_eq_true.1 hblank c (List.mem_of_mem_head? hhead)
  rw [Token.isBlank_of_isNameChar (Token.isNameChar_of_isNameStart hstart)] at hc
  cases hc

/-! ## The tree of a bare path -/

theorem parseChars_of_isSimplePath (h : isSimplePath source = true) (depth : Nat) :
    parseChars (depth + 1) source.toList = ofPath source := by
  have hfinish : Lexeme.next [] = .ok ⟨.finish, [], []⟩ := rfl
  unfold parseChars
  rw [(token_of_isSimplePath h).2, ok_bind, operand_succ, prefixed_of_path rfl, advance_mk, hfinish,
    ok_bind]
  cases ofPath source with
  | error fault => rfl
  | ok e =>
    -- Nothing follows the path: no index, no operator.
    rw [ok_bind, postfixes_of_other (by decide) (by decide), ok_bind, chain_of_none rfl]
    rfl

theorem parseChars_zero_of_isSimplePath (h : isSimplePath source = true) :
    parseChars 0 source.toList = .error (.overall (.tooDeep 0)) := by
  unfold parseChars
  rw [(token_of_isSimplePath h).2, ok_bind, operand.eq_1]
  rfl

/-- A bare path that is not too long is parsed like any other source, unless there is no level to
spend on it. -/
theorem parse_of_isSimplePath (h : isSimplePath source = true)
    (hlength : source.length ≤ limits.length) :
    parse limits source =
      if limits.depth = 0 then .error ⟨.tooDeep 0, none, source⟩ else parsePath source := by
  rw [parse_eq (not_isAllBlank_of_isSimplePath h) hlength]
  split
  · next hdepth =>
    rw [hdepth, parseChars_zero_of_isSimplePath h]
    simp [Except.mapError, Fault.toError]
  · next hdepth =>
    obtain ⟨d, hd⟩ : ∃ d, limits.depth = d + 1 := ⟨limits.depth - 1, by omega⟩
    rw [hd, parseChars_of_isSimplePath h, parsePath]

theorem length_le_of_parse {e : Expr} (h : parse limits source = .ok e) :
    source.length ≤ limits.length := by
  by_contra hlong
  have hlong : limits.length < source.toList.length := by
    rw [String.length_toList]
    exact Nat.lt_of_not_le hlong
  unfold parse at h
  simp only [if_pos hlong] at h
  split at h <;> cases h

/-- A bare path is refused for the limits of paths only. -/
theorem isPathLimit_of_parsePath {error : ParseError} (h : parsePath source = .error error) :
    error.cause.IsPathLimit := by
  unfold parsePath ofPath at h
  cases hsplit : Path.split source with
  | ok segments =>
    rw [hsplit] at h
    cases h
  | error e =>
    rw [hsplit] at h
    have hlimit := Path.isPathLimit_of_split hsplit
    cases h
    exact hlimit

end Expr
end ReceiptTemplate
