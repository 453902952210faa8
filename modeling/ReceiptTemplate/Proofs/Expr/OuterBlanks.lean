import ReceiptTemplate.Proofs.Engine.CacheAnswer
import ReceiptTemplate.Proofs.Expr.Built
import ReceiptTemplate.Proofs.Expr.ReadBack
import ReceiptTemplate.Proofs.Expr.TrailingBlanks

/-!
# Outer blanks — blanks around a source change nothing

Blanks before a source are skipped with the first token.  Over a text with blanks after it the parser
goes the same way as without them, token by token, and ends with the same tree or with an error over
both.  So a source that has a tree has it without the blanks around it as well.
-/

namespace ReceiptTemplate

open Fault (Agree)
open Unicode (isBlank)

namespace Expr

/-! ## Levels of the parser -/

/-- The same result, read up to the same token. -/
structure SameStep {α : Type} (p q : α × Lexeme) : Prop where
  result : p.1 = q.1
  lexeme : SameToken p.2 q.2

section

variable {limit d : Nat} {t u : Lexeme}

theorem expect_agree (s : Symbol) (cause : ParseCause) (h : SameToken t u) :
    Agree SameToken (expect s cause t) (expect s cause u) := by
  unfold expect
  rw [h.token]
  split
  · exact h.advance
  · exact .error _ _

theorem literal_agree (h : SameToken t u) : Agree SameStep (literal t) (literal u) := by
  have hleaf (e : Expr) :
      Agree SameStep (t.advance.map fun t => (e, t)) (u.advance.map fun t => (e, t)) :=
    h.advance.map fun hv => ⟨rfl, hv⟩
  unfold literal
  rw [h.token]
  cases t.token with
  | number n => exact hleaf (.number n)
  | text s => exact hleaf (.text s)
  | bool b => exact hleaf (.bool b)
  | null => exact hleaf .null
  | path p => exact .error _ _
  | symbol s => exact .error _ _
  | finish => exact .error _ _

theorem memberSegments_agree (h : SameToken t u) :
    Agree SameStep (memberSegments t) (memberSegments u) := by
  unfold memberSegments
  refine h.advance.bind ?_
  intro v w hv
  rw [hv.token]
  split
  · refine hv.advance.bind ?_
    intro v' w' hv'
    split
    · exact .ok ⟨rfl, hv'⟩
    · exact .error _ _
  · exact .error _ _

theorem filterCall_agree (h : SameToken t u) : Agree SameStep (filterCall t) (filterCall u) := by
  rcases h.rest with ⟨ws, hws, hrest⟩
  unfold filterCall
  rw [hrest]
  refine (FilterCall.read_leaving hws t.rest).bind ?_
  rintro ⟨call, rest⟩ _ rfl
  refine (Lexeme.next_leaving hws rest).bind ?_
  intro v w hv
  exact .ok ⟨rfl, hv⟩

/-- What the parser does with `d` levels is the same over both texts. -/
structure LevelsAgree (limit d : Nat) : Prop where
  operand : ∀ p {t u}, SameToken t u →
    Agree SameStep (operand limit d p t) (Expr.operand limit d p u)
  postfixes : ∀ members e {t u}, SameToken t u →
    Agree SameStep (postfixes limit d members e t) (Expr.postfixes limit d members e u)
  chain : ∀ p compared e {t u}, SameToken t u →
    Agree SameStep (chain limit d p compared e t) (Expr.chain limit d p compared e u)

namespace LevelsAgree

theorem prefixed (hd : LevelsAgree limit d) (h : SameToken t u) :
    Agree SameStep (prefixed limit d t) (Expr.prefixed limit d u) := by
  unfold Expr.prefixed
  rw [h.token]
  split
  · refine h.advance.bind ?_
    intro v w hv
    refine (hd.operand .unary hv).bind ?_
    rintro ⟨e, v'⟩ ⟨_, w'⟩ ⟨rfl, hv'⟩
    exact .ok ⟨rfl, hv'⟩
  · refine h.advance.bind ?_
    intro v w hv
    refine (hd.operand .unary hv).bind ?_
    rintro ⟨e, v'⟩ ⟨_, w'⟩ ⟨rfl, hv'⟩
    exact .ok ⟨rfl, hv'⟩
  · refine h.advance.bind ?_
    intro v w hv
    refine (hd.operand .lowest hv).bind ?_
    rintro ⟨e, v'⟩ ⟨_, w'⟩ ⟨rfl, hv'⟩
    refine (expect_agree .rightParen .missingParenthesis hv').bind ?_
    intro v'' w'' hv''
    exact hd.postfixes [] e hv''
  · next s _ =>
    refine h.advance.bind ?_
    intro v w hv
    cases ofPath s with
    | error fault => exact .error _ _
    | ok e => exact hd.postfixes [] e hv
  · exact literal_agree h

theorem operand_succ (hd : LevelsAgree limit d) (p : Precedence) (h : SameToken t u) :
    Agree SameStep (Expr.operand limit (d + 1) p t) (Expr.operand limit (d + 1) p u) := by
  rw [Expr.operand_succ, Expr.operand_succ]
  refine (hd.prefixed h).bind ?_
  rintro ⟨e, v⟩ ⟨_, w⟩ ⟨rfl, hv⟩
  exact hd.chain p false e hv

theorem postfixes_succ (hd : LevelsAgree limit d) (members : List Segment) (e : Expr)
    (h : SameToken t u) :
    Agree SameStep (Expr.postfixes limit (d + 1) members e t)
      (Expr.postfixes limit (d + 1) members e u) := by
  cases members with
  | cons s members =>
    rw [postfixes.eq_3, postfixes.eq_3]
    exact hd.postfixes members (member e s) h
  | nil =>
    rw [postfixes.eq_4, postfixes.eq_4, h.token]
    split
    · refine h.advance.bind ?_
      intro v w hv
      refine (hd.operand .lowest hv).bind ?_
      rintro ⟨key, v'⟩ ⟨_, w'⟩ ⟨rfl, hv'⟩
      refine (expect_agree .rightBracket .missingBracket hv').bind ?_
      intro v'' w'' hv''
      exact hd.postfixes [] (.index e key false) hv''
    · refine (memberSegments_agree h).bind ?_
      rintro ⟨segments, v⟩ ⟨_, w⟩ ⟨rfl, hv⟩
      cases segments with
      | nil => exact .ok ⟨rfl, hv⟩
      | cons s members => exact hd.postfixes members (member e s) hv
    · exact .ok ⟨rfl, h⟩

theorem chain_succ (hd : LevelsAgree limit d) (p : Precedence) (compared : Bool) (e : Expr)
    (h : SameToken t u) :
    Agree SameStep (Expr.chain limit (d + 1) p compared e t)
      (Expr.chain limit (d + 1) p compared e u) := by
  rw [Expr.chain, Expr.chain, h.token]
  split
  · exact .ok ⟨rfl, h⟩
  · next op _ =>
    split
    · exact .ok ⟨rfl, h⟩
    · split
      · exact .error _ _
      · dsimp only
        split
        · refine (filterCall_agree h).bind ?_
          rintro ⟨call, v⟩ ⟨_, w⟩ ⟨rfl, hv⟩
          exact hd.chain p false (.filter call e) hv
        · refine h.advance.bind ?_
          intro v w hv
          refine (hd.operand op.precedence hv).bind ?_
          rintro ⟨right, v'⟩ ⟨_, w'⟩ ⟨rfl, hv'⟩
          exact hd.chain p _ (op.apply e right) hv'

/-- Without a level the parser reads on at most to see that it needs one. -/
theorem zero (limit : Nat) : LevelsAgree limit 0 := by
  refine ⟨?_, ?_, ?_⟩
  · intro p t u h
    rw [operand.eq_1, operand.eq_1]
    exact .error _ _
  · intro members e t u h
    cases members with
    | cons s members =>
      rw [postfixes.eq_2, postfixes.eq_2]
      exact .error _ _
    | nil =>
      rw [postfixes.eq_1, postfixes.eq_1, h.token]
      split
      · refine h.advance.bind ?_
        intro v w hv
        exact .error _ _
      · refine (memberSegments_agree h).bind ?_
        rintro ⟨segments, v⟩ ⟨_, w⟩ ⟨rfl, hv⟩
        dsimp only
        split
        · exact .ok ⟨rfl, hv⟩
        · exact .error _ _
      · exact .ok ⟨rfl, h⟩
  · intro p compared e t u h
    rw [Expr.chain, Expr.chain, h.token]
    split
    · exact .ok ⟨rfl, h⟩
    · split
      · exact .ok ⟨rfl, h⟩
      · split
        · exact .error _ _
        · exact .error _ _

end LevelsAgree

theorem levelsAgree (limit d : Nat) : LevelsAgree limit d := by
  induction d with
  | zero => exact .zero limit
  | succ d ih =>
    exact ⟨fun p _ _ h => ih.operand_succ p h, fun members e _ _ h => ih.postfixes_succ members e h,
      fun p compared e _ _ h => ih.chain_succ p compared e h⟩

end

/-! ## Whole sources -/

variable {depth : Nat} {cs w w' : List Char} {limits : Limits} {source : String} {e : Expr}

theorem parseChars_append_blanks (hw : Blanks w) (depth : Nat) (cs : List Char) :
    Agree Eq (parseChars depth cs) (parseChars depth (cs ++ w)) := by
  unfold parseChars
  refine (Lexeme.next_leaving hw cs).bind ?_
  intro t u h
  refine ((levelsAgree depth depth).operand .lowest h).bind ?_
  rintro ⟨e, v⟩ ⟨_, v'⟩ ⟨rfl, hv⟩
  dsimp only
  rw [hv.token]
  split
  · exact .ok rfl
  · exact .error _ _

/-- Blanks around the characters of a source do not change its tree. -/
theorem parseChars_blanks_iff (hw : Blanks w) (hw' : Blanks w') :
    parseChars depth (w ++ (cs ++ w')) = .ok e ↔ parseChars depth cs = .ok e := by
  have hbefore : parseChars depth (w ++ (cs ++ w')) = parseChars depth (cs ++ w') := by
    unfold parseChars
    rw [Lexeme.next_blanks hw]
  have hafter := parseChars_append_blanks hw' depth cs
  rw [hbefore]
  generalize parseChars depth cs = x at hafter ⊢
  generalize parseChars depth (cs ++ w') = y at hafter ⊢
  cases hafter with
  | ok h => rw [h]
  | error fault fault' => exact ⟨nofun, nofun⟩

theorem exists_blanks_stripChars (cs : List Char) :
    ∃ w w', Blanks w ∧ Blanks w' ∧ cs = w ++ (Text.stripChars cs ++ w') := by
  have hblanks (cs : List Char) : Blanks (cs.takeWhile isBlank) :=
    fun c hc => List.mem_takeWhile_imp hc
  generalize hrest : cs.dropWhile isBlank = rest
  refine ⟨cs.takeWhile isBlank, (rest.reverse.takeWhile isBlank).reverse, hblanks cs, ?_, ?_⟩
  · intro c hc
    exact hblanks rest.reverse c (List.mem_reverse.1 hc)
  · have hsplit : rest = Text.stripChars cs ++ (rest.reverse.takeWhile isBlank).reverse := by
      rw [Text.stripChars, Text.stripWhile, hrest, ← List.reverse_append,
        List.takeWhile_append_dropWhile, List.reverse_reverse]
    rw [← hsplit, ← hrest, List.takeWhile_append_dropWhile]

/-- A source has its tree without the blanks around it, too. -/
theorem parse_strip (h : parse limits source = .ok e) :
    parse limits (Text.strip source) = .ok e := by
  rcases exists_blanks_stripChars source.toList with ⟨w, w', hw, hw', hsource⟩
  have hstrip : (Text.strip source).toList = Text.stripChars source.toList := by
    rw [Text.strip, String.toList_ofList]
  have hlength : (Text.strip source).length ≤ limits.length := by
    have hle := length_le_of_parse h
    have hlengths := congrArg List.length hsource
    rw [← String.length_toList, hstrip]
    rw [← String.length_toList] at hle
    simp only [List.length_append] at hlengths
    omega
  refine parse_of_parseChars hlength ?_
  have hparse := parseChars_of_parse h
  rw [hsource, parseChars_blanks_iff hw hw'] at hparse
  rw [hstrip]
  exact hparse

/-- A bare path has no blanks around it. -/
theorem strip_of_isSimplePath (h : isSimplePath source = true) : Text.strip source = source := by
  rcases exists_blanks_stripChars source.toList with ⟨w, w', hw, hw', hsource⟩
  have hbefore : w = [] := by
    rcases (token_of_isSimplePath h).1 with ⟨c, hc, hstart⟩
    cases w with
    | nil => rfl
    | cons d w =>
      rw [hsource] at hc
      cases hc
      rw [Token.isNameStart_of_isBlank (hw.head rfl)] at hstart
      cases hstart
  have hafter : w' = [] := by
    unfold isSimplePath at h
    rw [hsource, hbefore, List.nil_append,
      Token.readPath?_leaving hw'.stops fun hmem => absurd hmem hw'.not_bracket] at h
    cases hread : Token.readPath? (Text.stripChars source.toList) with
    | none => simp [hread] at h
    | some p =>
      -- The path goes to the end of the source, and the blanks would be left after it.
      cases hleft : p.2 ++ w' with
      | nil => exact (List.append_eq_nil_iff.1 hleft).2
      | cons c rest => simp [hread, leaving, hleft] at h
  rw [Text.strip, ← String.toList_inj, String.toList_ofList]
  conv_rhs => rw [hsource, hbefore, hafter]
  simp

end Expr

/-- A cache gives a source the tree that it gives the source without the blanks around it. -/
theorem ExprCache.treeOf_strip {limits : Expr.Limits} {source : String} {e : Expr}
    (h : treeOf limits source = .ok e) : treeOf limits (Text.strip source) = .ok e := by
  by_cases hsimple : Expr.isSimplePath source = true
  · rw [Expr.strip_of_isSimplePath hsimple]
    exact h
  · have hparse : Expr.parse limits source = .ok e := by
      simpa [treeOf, hsimple] using h
    -- A source that parses spends a level, so that the stripped one is not a bare path beyond them.
    have hdepth : limits.depth ≠ 0 := by
      rcases Expr.built_of_parse hparse with ⟨n, k, hn, -⟩
      omega
    have htree := (treeOf_eq_parse_iff limits (Text.strip source)).2 fun hzero => hdepth hzero.1
    rw [htree]
    exact Expr.parse_strip hparse

end ReceiptTemplate
