import Mathlib.Data.List.TakeWhile
import ReceiptTemplate.Proofs.Expr.OperandEnd

/-!
# Reading back — the parser gives back every tree that was written

A written tree is read from the left: its first operand, the indexes and members after it, and then
the operators that are folded into it one by one.  `Reads` says what that leaves: the parser stands
at the end of the text with the whole tree as the operand read so far, and has spent one level for
each operator it folded.  By induction on the tree this holds wherever the tree may stand, and for a
whole source it gives the tree itself.
-/

namespace ReceiptTemplate
namespace Expr

open Token (EndsWord Spells quotedChars)

variable {limit : Nat} {e : Expr}

/-! ## Reading an operand -/

/-- The text of a tree is read up to its end, with the whole tree folded into the first operand. -/
def Reads (limit : Nat) (e : Expr) : Prop :=
  ∀ (d : Nat) (p : Precedence) (rest : List Char), Admits p e.rank → OperandEnd e.rank rest →
    e.levels ≤ d + 1 →
      (Lexeme.next (e.chars ++ rest) >>= operand limit (d + 1) p)
        = Lexeme.next rest >>= chain limit (d - e.folds) p (e.rank == Precedence.comparison.rank) e

/-- The text of a path or an index is read up to its end as the target of further indexes. -/
def ReadsTarget (limit : Nat) (e : Expr) : Prop :=
  ∀ (d : Nat) (rest : List Char), EndsWord rest → e.levels ≤ d + 1 →
    (Lexeme.next (e.chars ++ rest) >>= prefixed limit d)
      = Lexeme.next rest >>= postfixes limit (d - e.steps) [] e

/-- The text of a tree is read as an operand and, where it takes an index without parentheses, as a
target. -/
structure ReadBack (limit : Nat) (e : Expr) : Prop where
  reads : Reads limit e
  target : Precedence.unary.rank < e.rank → ReadsTarget limit e

theorem levels_pos (e : Expr) : 0 < e.levels := by
  cases e <;> simp only [levels, infixLevels] <;> omega

/-! ## Leaves and targets -/

theorem reads_of_leaf {token : Token} (hspells : Spells e.chars token)
    (hleaf : leaf? token = some e) (hrank : e.rank = Precedence.unary.rank) (hfolds : e.folds = 0) :
    Reads limit e := by
  intro d p rest _ hrest _
  have hunary : (Precedence.unary.rank == Precedence.comparison.rank) = false := rfl
  rw [hspells rest hrest.endsWord, hfolds, hrank, hunary, ok_bind, operand_succ,
    prefixed_of_leaf hleaf, bind_assoc]
  rfl

theorem Reads.of_target (h : ReadsTarget limit e) (hrank : Precedence.unary.rank < e.rank)
    (hfolds : e.folds = 0) : Reads limit e := by
  intro d p rest _ hrest hlevels
  have hcompared : (e.rank == Precedence.comparison.rank) = false := by
    rw [beq_eq_false_iff_ne]
    intro heq
    rw [heq] at hrank
    exact absurd hrank (by decide)
  rw [bind_operand_succ, h d rest hrest.endsWord hlevels, hrest.postfixes_eq, bind_assoc, hfolds,
    hcompared]
  rfl

/-- A tree in parentheses is read like a target without indexes. -/
theorem Reads.grouped (h : Reads limit e) {d : Nat} (hlevels : e.levels ≤ d) (rest : List Char) :
    (Lexeme.next ('(' :: (e.chars ++ ')' :: rest)) >>= prefixed limit d)
      = Lexeme.next rest >>= postfixes limit d [] e := by
  have hpos := e.levels_pos
  obtain ⟨d, rfl⟩ : ∃ d', d = d' + 1 := ⟨d - 1, by omega⟩
  have hend : OperandEnd 0 (')' :: rest) := .group rest
  have hopen : Lexeme.next ('(' :: (e.chars ++ ')' :: rest))
      = .ok ⟨.symbol .leftParen, '(' :: (e.chars ++ ')' :: rest), e.chars ++ ')' :: rest⟩ := rfl
  -- Inside the group no operator is held back, and the bracket ends the chain.
  have hinner : (Lexeme.next (e.chars ++ ')' :: rest) >>= operand limit (d + 1) .lowest)
      = Lexeme.next (')' :: rest) >>= fun t => .ok (e, t) := by
    rw [h d .lowest (')' :: rest) (admits_lowest _) (hend.mono (Nat.zero_le _)) hlevels]
    exact hend.chain_eq (fun _ => not_continues_of_leftRank_le_zero) _ _ _
  calc (Lexeme.next ('(' :: (e.chars ++ ')' :: rest)) >>= prefixed limit (d + 1))
      = (Lexeme.next (e.chars ++ ')' :: rest) >>= operand limit (d + 1) .lowest) >>= fun q =>
          expect .rightParen .missingParenthesis q.2 >>= postfixes limit (d + 1) [] q.1 := by
        rw [hopen, ok_bind, prefixed_of_leftParen rfl, advance_mk]
    _ = (Lexeme.next (')' :: rest) >>= fun t => .ok (e, t)) >>= fun q =>
          expect .rightParen .missingParenthesis q.2 >>= postfixes limit (d + 1) [] q.1 := by
        rw [hinner]
    _ = Lexeme.next rest >>= postfixes limit (d + 1) [] e := by
        rw [bind_assoc]
        rfl

/-- A tree stands as the target of an index as its text is, or in parentheses. -/
theorem ReadBack.bare_target (h : ReadBack limit e) {d : Nat} {rest : List Char}
    (hrest : EndsWord rest)
    (hlevels : e.bare (Precedence.unary.rank + 1) e.levels (e.levels + 1) ≤ d + 1) :
    (Lexeme.next (enclose (Precedence.unary.rank + 1) e e.chars ++ rest) >>= prefixed limit d)
      = Lexeme.next rest >>=
          postfixes limit (d - e.bare (Precedence.unary.rank + 1) e.steps 0) [] e := by
  by_cases hrank : Precedence.unary.rank + 1 ≤ e.rank
  · simp only [enclose, bare, if_pos hrank] at hlevels ⊢
    exact h.target hrank d rest hrest hlevels
  · simp only [enclose, bare, if_neg hrank] at hlevels ⊢
    have hgroup : '(' :: e.chars ++ [')'] ++ rest = '(' :: (e.chars ++ ')' :: rest) := by simp
    rw [hgroup]
    exact h.reads.grouped (by omega) rest

/-- A tree stands at rank `k` as its text is, or in parentheses. -/
theorem Reads.enclosed (h : Reads limit e) {k d : Nat} {p : Precedence} {rest : List Char}
    (hp : Admits p k) (hrest : OperandEnd k rest)
    (hlevels : e.bare k e.levels (e.levels + 1) ≤ d + 1) :
    (Lexeme.next (enclose k e e.chars ++ rest) >>= operand limit (d + 1) p)
      = Lexeme.next rest >>= chain limit (d - e.bare k e.folds 0) p
          (e.bare k (e.rank == Precedence.comparison.rank) false) e := by
  by_cases hrank : k ≤ e.rank
  · simp only [enclose, bare, if_pos hrank] at hlevels ⊢
    exact h d p rest (hp.mono hrank) (hrest.mono hrank) hlevels
  · simp only [enclose, bare, if_neg hrank] at hlevels ⊢
    have hgroup : '(' :: e.chars ++ [')'] ++ rest = '(' :: (e.chars ++ ')' :: rest) := by simp
    rw [hgroup, bind_operand_succ, h.grouped (by omega) rest, hrest.postfixes_eq, bind_assoc]
    rfl

/-- An operand is read on its own where the next operator does not continue it. -/
theorem Reads.alone (h : Reads limit e) {k m d : Nat} {p : Precedence} {rest : List Char}
    (hp : Admits p k) (hrest : OperandEnd m rest) (hmk : m ≤ k)
    (hstop : ∀ op : Infix, op.leftRank ≤ m → op.continues p = false)
    (hlevels : e.bare k e.levels (e.levels + 1) ≤ d) :
    (Lexeme.next (enclose k e e.chars ++ rest) >>= operand limit d p)
      = Lexeme.next rest >>= fun t => .ok (e, t) := by
  have hpos : 0 < e.bare k e.levels (e.levels + 1) := by
    have hlevels := e.levels_pos
    unfold bare
    split <;> omega
  obtain ⟨d, rfl⟩ : ∃ d', d = d' + 1 := ⟨d - 1, by omega⟩
  rw [h.enclosed hp (hrest.mono hmk) hlevels]
  exact hrest.chain_eq hstop _ _ _

/-! ## One construct on read operands -/

/-- A path is one token where no name and no further segment follows it. -/
theorem next_path {s : String} (h : IsPath s) {rest : List Char} (hname : Token.StopsName rest)
    (htail : Token.pathTail rest = ([], rest)) :
    Lexeme.next (s.toList ++ rest) = .ok ⟨.path s, s.toList ++ rest, rest⟩ := by
  rcases h with rfl | ⟨t, rfl, -, hkeyword⟩
  · exact Token.next_scope hname
  · have htoken := ofPathText_eq_path_iff.2 hkeyword
    have hchars : t.text.toList = t.chars := by simp [PathText.text]
    rw [hchars, Token.next_pathText hname htail t, htoken]

theorem ofPath_of_isPath {s : String} (h : IsPath s) : ofPath s = .ok (.path s) := by
  rcases h with rfl | ⟨t, rfl, hlimits, -⟩
  · simp [ofPath, Path.split_scope]
  · simp [ofPath, Path.split_text hlimits]

theorem readsTarget_path {s : String} (h : IsPath s) : ReadsTarget limit (.path s) := by
  intro d rest hrest _
  have hstops := hrest.stopsPath
  have hnext := next_path h hstops.stopsName (Token.pathTail_of_head fun c hc => (hstops c hc).2.2)
  have hchars : (Expr.path s).chars = s.toList := rfl
  rw [hchars, hnext, ok_bind, prefixed_of_path rfl, advance_mk, ofPath_of_isPath h]
  rfl

/-- A unary operator takes the operand after it and nothing else. -/
theorem Reads.unary {f : Expr → Expr} {s : Symbol} (h : Reads limit e)
    (hprefixed : ∀ {d : Nat} {t : Lexeme}, t.token = .symbol s → prefixed limit d t
      = (t.advance >>= operand limit d .unary) >>= fun q => .ok (f q.1, q.2))
    (hnext : ∀ rest, Lexeme.next ((f e).chars ++ rest)
      = .ok ⟨.symbol s, (f e).chars ++ rest,
          ' ' :: (enclose Precedence.unary.rank e e.chars ++ rest)⟩)
    (hrank : (f e).rank = Precedence.unary.rank) (hfolds : (f e).folds = 0)
    (hlevels : (f e).levels = e.bare Precedence.unary.rank e.levels (e.levels + 1) + 1) :
    Reads limit (f e) := by
  intro d p rest _ hrest hd
  rw [hlevels, Nat.add_le_add_iff_right] at hd
  rw [hrank] at hrest
  have hoperand := h.alone (fun op hop => absurd op.rank_lt_unary (Nat.not_lt.2 hop)) hrest
    (Nat.le_refl _) (fun op _ => not_continues_unary op) hd
  have hcompared : ((f e).rank == Precedence.comparison.rank) = false := by
    rw [hrank]
    rfl
  calc (Lexeme.next ((f e).chars ++ rest) >>= operand limit (d + 1) p)
      = ((Lexeme.next (enclose Precedence.unary.rank e e.chars ++ rest) >>= operand limit d .unary)
          >>= fun q => .ok (f q.1, q.2)) >>= fun q => chain limit d p false q.1 q.2 := by
        rw [hnext, ok_bind, operand_succ, hprefixed rfl, advance_mk, Token.next_blank]
    _ = ((Lexeme.next rest >>= fun t => .ok (e, t)) >>= fun q => .ok (f q.1, q.2))
          >>= fun q => chain limit d p false q.1 q.2 := by
        rw [hoperand]
    _ = Lexeme.next rest >>= chain limit (d - (f e).folds) p
          ((f e).rank == Precedence.comparison.rank) (f e) := by
        rw [hfolds, hcompared]
        simp only [bind_assoc, ok_bind]
        rfl

/-- The left operand of an operator is no comparison if the operator is one. -/
theorem bare_comparison {op : Infix} (h : op.precedence = .comparison) (l : Expr) :
    l.bare op.leftRank (l.rank == Precedence.comparison.rank) false = false := by
  unfold bare
  split
  · next hrank =>
    obtain ⟨c, rfl⟩ : ∃ c, op = .comparison c := by
      cases op with
      | comparison c => exact ⟨c, rfl⟩
      | arithmetic op => cases op <;> cases h
      | _ => cases h
    -- Comparisons do not group, so the operand binds tighter than they do.
    have hlt : Precedence.comparison.rank < l.rank := hrank
    rw [beq_eq_false_iff_ne]
    omega
  · rfl

/-- An operator is folded into its left operand. -/
theorem Reads.operator {l r : Expr} (hl : Reads limit l) (hr : Reads limit r) {op : Infix}
    (hfilter : op ≠ .filter) {d : Nat} {p : Precedence} {rest : List Char} (hp : Admits p op.rank)
    (hrest : OperandEnd op.rank rest) (hlevels : infixLevels op l r l.levels r.levels ≤ d + 1) :
    (Lexeme.next (infixChars op l r l.chars r.chars ++ rest) >>= operand limit (d + 1) p)
      = Lexeme.next rest >>= chain limit (d - (l.bare op.leftRank l.folds 0 + 1)) p
          (op.rank == Precedence.comparison.rank) (op.apply l r) := by
  simp only [infixLevels, Nat.max_le] at hlevels
  rcases hlevels with ⟨hleft, hright⟩
  have hchars : infixChars op l r l.chars r.chars ++ rest
      = enclose op.leftRank l l.chars ++ ' ' :: (op.symbol.text.toList ++ ' ' ::
          (enclose op.rightRank r r.chars ++ rest)) := by
    simp [infixChars]
  have hend : OperandEnd op.leftRank (' ' :: (op.symbol.text.toList ++ ' ' ::
      (enclose op.rightRank r r.chars ++ rest))) := .operator op (Nat.le_refl _) _
  -- The operators folded into the left operand leave one level for this one.
  obtain ⟨budget, hbudget⟩ :
      ∃ budget, d - l.bare op.leftRank l.folds 0 = budget + 1 :=
    ⟨d - l.bare op.leftRank l.folds 0 - 1, by omega⟩
  have hsub : d - (l.bare op.leftRank l.folds 0 + 1) = budget := by omega
  have hoperand := hr.alone (admits_rightRank op) hrest op.rank_le_rightRank
    (fun op' hop' => not_continues_of_leftRank_le hop')
    (show r.bare op.rightRank r.levels (r.levels + 1) ≤ budget by omega)
  have hrank : (op.precedence == Precedence.comparison)
      = (op.rank == Precedence.comparison.rank) := by
    cases op with
    | arithmetic op => cases op <;> rfl
    | _ => rfl
  calc (Lexeme.next (infixChars op l r l.chars r.chars ++ rest) >>= operand limit (d + 1) p)
      = Lexeme.next (' ' :: (op.symbol.text.toList ++ ' ' ::
          (enclose op.rightRank r r.chars ++ rest))) >>= chain limit (budget + 1) p
              (l.bare op.leftRank (l.rank == Precedence.comparison.rank) false) l := by
        rw [hchars, hl.enclosed (hp.mono op.rank_le_leftRank) hend hleft, hbudget]
    _ = (Lexeme.next (enclose op.rightRank r r.chars ++ rest)
          >>= operand limit budget op.precedence) >>= fun q =>
            chain limit budget p (op.precedence == .comparison) (op.apply l q.1) q.2 := by
        rw [OperandEnd.next_operator, ok_bind,
          chain_of_operator op.ofToken?_symbol hfilter (hp op (Nat.le_refl _))
            fun hcomparison => bare_comparison hcomparison l,
          advance_mk, Token.next_blank]
    _ = (Lexeme.next rest >>= fun t => .ok (r, t)) >>= fun q =>
            chain limit budget p (op.precedence == .comparison) (op.apply l q.1) q.2 := by
        rw [hoperand]
    _ = Lexeme.next rest >>= chain limit (d - (l.bare op.leftRank l.folds 0 + 1)) p
          (op.rank == Precedence.comparison.rank) (op.apply l r) := by
        rw [hrank, hsub]
        simp only [bind_assoc, ok_bind]

theorem Reads.filter {call : FilterCall} (h : Reads limit e) (hcall : call.WellNamed) :
    Reads limit (.filter call e) := by
  intro d p rest hp hrest hlevels
  simp only [levels, Nat.max_le] at hlevels
  rcases hlevels with ⟨hinput, hfilter⟩
  have hchars : (Expr.filter call e).chars ++ rest
      = e.chars ++ ' ' :: (Infix.filter.symbol.text.toList ++ ' ' :: (call.chars ++ rest)) := by
    have hpipe : Infix.filter.symbol.text.toList = ['|'] := rfl
    simp [chars, hpipe]
  -- Filters bind the loosest, so their input takes no parentheses.
  have hrank : Infix.filter.rank ≤ e.rank := by
    cases e <;> simp only [rank] <;> first
      | exact Nat.succ_le_of_lt (Infix.rank_pos _)
      | decide
  have hend : OperandEnd e.rank
      (' ' :: (Infix.filter.symbol.text.toList ++ ' ' :: (call.chars ++ rest))) :=
    .operator .filter hrank _
  obtain ⟨budget, hbudget⟩ : ∃ budget, d - e.folds = budget + 1 := ⟨d - e.folds - 1, by omega⟩
  have hsub : d - (Expr.filter call e).folds = budget := by
    simp only [folds]
    omega
  rw [hchars, h d p _ (hp.mono hrank) hend hinput, hbudget, OperandEnd.next_operator, ok_bind,
    chain_of_filter rfl (hp .filter (Nat.le_refl _)), hsub]
  simp [filterCall, FilterCall.read_chars hcall hrest.endsCall, ok_bind]
  rfl

theorem enclose_zero (e : Expr) (cs : List Char) : enclose 0 e cs = cs := by
  simp [enclose, bare]

section Member

variable {name : String}

theorem spells_name (hname : Token.isName name.toList = true) (hkeyword : ¬IsKeyword name) :
    Spells name.toList (.path name) := by
  let path : PathText := ⟨name.toList, hname, []⟩
  have hspells := Token.spells_pathText path
  have hchars : path.chars = name.toList := by simp [path, PathText.chars]
  have htext : path.text = name := by simp [PathText.text, hchars]
  rwa [hchars, htext, ofPathText_eq_path_iff.2 hkeyword] at hspells

theorem IsMember.isPath (h : IsMember name) : IsPath name := by
  have hchars : (⟨name.toList, h.isName, []⟩ : PathText).chars = name.toList := by
    simp [PathText.chars]
  refine .inr ⟨⟨name.toList, h.isName, []⟩, by simp [PathText.text, hchars], ⟨?_, by simp⟩,
    h.notKeyword⟩
  rw [hchars, String.length_toList]
  exact h.length

theorem split_name (h : IsMember name) : Path.split name = .ok [.name name] := by
  let path : PathText := ⟨name.toList, h.isName, []⟩
  have hchars : path.chars = name.toList := by simp [path, PathText.chars]
  have hlimits : path.InLimits :=
    ⟨by rw [hchars, String.length_toList]; exact h.length, by simp [path]⟩
  have hsplit := Path.split_text hlimits
  have htext : path.text = name := by simp [PathText.text, hchars]
  have hsegments : path.segments = [.name name] := by simp [path, PathText.segments]
  rwa [htext, hsegments] at hsplit

/-- A dot before a name is a token of its own. -/
theorem next_dot (hname : Token.isName name.toList = true) (rest : List Char) :
    Lexeme.next ('.' :: (name.toList ++ rest))
      = .ok ⟨.symbol .dot, '.' :: (name.toList ++ rest), name.toList ++ rest⟩ := by
  apply Token.next_of_read (by decide)
  cases hcs : name.toList with
  | nil =>
    rw [hcs] at hname
    cases hname
  | cons c cs =>
    rw [hcs] at hname
    simp only [Token.isName, Bool.and_eq_true] at hname
    simp [Token.read, Token.readSymbol?, hname.1]

/-- A member name is one segment. -/
theorem memberSegments_name (h : IsMember name) {rest : List Char} (hrest : EndsWord rest) :
    memberSegments ⟨.symbol .dot, '.' :: (name.toList ++ rest), name.toList ++ rest⟩
      = Lexeme.next rest >>= fun u => .ok ([.name name], u) := by
  simp [memberSegments, advance_mk, spells_name h.isName h.notKeyword rest hrest, ok_bind,
    split_name h]

/-- A member name that is longer than a path may be is refused. -/
theorem memberSegments_long (hname : Token.isName name.toList = true) (hkeyword : ¬IsKeyword name)
    (hlong : Path.maxLength < name.length) :
    memberSegments ⟨.symbol .dot, '.' :: name.toList, name.toList⟩
      = .error (.part ⟨.pathTooLong name.length Path.maxLength, none,
          String.ofList (name.toList.take 100)⟩) := by
  have hspells := spells_name hname hkeyword [] (by simp [EndsWord])
  rw [List.append_nil] at hspells
  have hsplit : Path.split name = .error ⟨.pathTooLong name.length Path.maxLength, none,
      String.ofList (name.toList.take 100)⟩ := by
    simp [Path.split, String.length_toList, hlong]
  have hfinish : Lexeme.next [] = .ok ⟨.finish, [], []⟩ := rfl
  simp [memberSegments, advance_mk, hspells, ok_bind, hsplit, hfinish]

end Member

section Index

variable {target : Expr}

/-- An index takes one level of those that the target leaves. -/
theorem ReadBack.index_target (h : ReadBack limit target) (key : Expr) (member : Bool)
    {d cost : Nat} {rest : List Char} (hrest : EndsWord rest)
    (hlevels : max (target.bare (Precedence.unary.rank + 1) target.levels (target.levels + 1))
      (target.bare (Precedence.unary.rank + 1) target.steps 0 + 2 + cost) ≤ d + 1) :
    ∃ budget, d - (Expr.index target key member).steps = budget ∧ cost ≤ budget ∧
      (Lexeme.next (enclose (Precedence.unary.rank + 1) target target.chars ++ rest)
          >>= prefixed limit d)
        = Lexeme.next rest >>= postfixes limit (budget + 1) [] target := by
  rcases Nat.max_le.1 hlevels with ⟨hleft, hright⟩
  obtain ⟨budget, hbudget⟩ :
      ∃ budget, d - target.bare (Precedence.unary.rank + 1) target.steps 0 = budget + 1 :=
    ⟨d - target.bare (Precedence.unary.rank + 1) target.steps 0 - 1, by omega⟩
  refine ⟨budget, ?_, by omega, ?_⟩
  · simp only [steps]
    omega
  · rw [h.bare_target hrest hleft, hbudget]

theorem readsTarget_index {key : Expr} (ht : ReadBack limit target) (hkey : Reads limit key) :
    ReadsTarget limit (.index target key false) := by
  intro d rest hrest hlevels
  rcases ht.index_target key false (Token.endsWord_cons (.inl rfl) _) hlevels with
    ⟨budget, hsub, hcost, htarget⟩
  have hchars : (Expr.index target key false).chars ++ rest
      = enclose (Precedence.unary.rank + 1) target target.chars
          ++ ' ' :: '[' :: ' ' :: (key.chars ++ ' ' :: ']' :: rest) := by
    simp [chars]
  have hopen : Lexeme.next (' ' :: '[' :: ' ' :: (key.chars ++ ' ' :: ']' :: rest))
      = .ok ⟨.symbol .leftBracket, '[' :: ' ' :: (key.chars ++ ' ' :: ']' :: rest),
          ' ' :: (key.chars ++ ' ' :: ']' :: rest)⟩ := rfl
  have hkeyLevels : key.bare 0 key.levels (key.levels + 1) ≤ budget := by
    rw [bare, if_pos (Nat.zero_le _)]
    exact hcost
  have hoperand := hkey.alone (admits_lowest 0) (.key rest) (Nat.le_refl 0)
    (fun _ => not_continues_of_leftRank_le_zero) hkeyLevels
  rw [enclose_zero] at hoperand
  calc (Lexeme.next ((Expr.index target key false).chars ++ rest) >>= prefixed limit d)
      = Lexeme.next (' ' :: '[' :: ' ' :: (key.chars ++ ' ' :: ']' :: rest))
          >>= postfixes limit (budget + 1) [] target := by
        rw [hchars, htarget]
    _ = (Lexeme.next (key.chars ++ ' ' :: ']' :: rest) >>= operand limit budget .lowest)
          >>= fun q => expect .rightBracket .missingBracket q.2
            >>= postfixes limit budget [] (.index target q.1 false) := by
        rw [hopen, ok_bind, postfixes_of_leftBracket rfl, advance_mk, Token.next_blank]
    _ = Lexeme.next rest >>= postfixes limit budget [] (.index target key false) := by
        rw [hoperand, bind_assoc]
        rfl
    _ = Lexeme.next rest >>= postfixes limit (d - (Expr.index target key false).steps) []
          (.index target key false) := by
        rw [hsub]

theorem readsTarget_member {name : String} (ht : ReadBack limit target) (hname : IsMember name) :
    ReadsTarget limit (.index target (.text name) true) := by
  intro d rest hrest hlevels
  rcases ht.index_target (.text name) true (Token.endsWord_cons (.inl rfl) _) hlevels with
    ⟨budget, hsub, -, htarget⟩
  have hchars : (Expr.index target (.text name) true).chars ++ rest
      = enclose (Precedence.unary.rank + 1) target target.chars
          ++ ' ' :: '.' :: (name.toList ++ rest) := by
    simp [chars, memberName]
  have hmember := memberSegments_name hname hrest
  rw [hchars, htarget, Token.next_blank, next_dot hname.isName, ok_bind,
    postfixes_of_dot rfl hmember, hsub]
  rfl

end Index

/-! ## Whole trees -/

/-- A tree that binds no tighter than a unary operator is no target without parentheses. -/
theorem ReadBack.of_reads (h : Reads limit e) (hrank : e.rank ≤ Precedence.unary.rank) :
    ReadBack limit e :=
  ⟨h, fun hlt => absurd hlt (Nat.not_lt.2 hrank)⟩

theorem ReadBack.of_target (h : ReadsTarget limit e) (hrank : e.rank = Precedence.unary.rank + 1)
    (hfolds : e.folds = 0) : ReadBack limit e :=
  ⟨.of_target h (by omega) hfolds, fun _ => h⟩

/-- All constructs with two operands and an operator between them are read in the same way. -/
theorem ReadBack.operator {l r : Expr} (op : Infix) (hfilter : op ≠ .filter) (hl : ReadBack limit l)
    (hr : ReadBack limit r) (hchars : (op.apply l r).chars = infixChars op l r l.chars r.chars)
    (hlevels : (op.apply l r).levels = infixLevels op l r l.levels r.levels)
    (hrank : (op.apply l r).rank = op.rank)
    (hfolds : (op.apply l r).folds = l.bare op.leftRank l.folds 0 + 1) :
    ReadBack limit (op.apply l r) := by
  refine .of_reads ?_ ?_
  · intro d p rest hp hrest hd
    rw [hrank] at hp hrest
    rw [hlevels] at hd
    rw [hchars, hrank, hfolds]
    exact hl.reads.operator hr.reads hfilter hp hrest hd
  · rw [hrank]
    exact Nat.le_of_lt op.rank_lt_unary

/-- Every tree that has a text is read back from it, on its own and as a target. -/
theorem readBack_of_printable (h : e.Printable) : ReadBack limit e := by
  have hunary : Precedence.unary.rank ≤ Precedence.unary.rank := Nat.le_refl _
  induction e with
  | path s => exact .of_target (readsTarget_path h) rfl rfl
  | number d => exact .of_reads (reads_of_leaf (Token.spells_number h.1 h.2) rfl rfl rfl) hunary
  | text s => exact .of_reads (reads_of_leaf (Token.spells_text s) rfl rfl rfl) hunary
  | bool b => exact .of_reads (reads_of_leaf (Token.spells_bool b) rfl rfl rfl) hunary
  | null => exact .of_reads (reads_of_leaf Token.spells_null rfl rfl rfl) hunary
  | arithmetic op l r ihl ihr =>
    exact .operator (.arithmetic op) (by simp) (ihl h.1) (ihr h.2) rfl rfl rfl rfl
  | comparison op l r ihl ihr =>
    exact .operator (.comparison op) (by simp) (ihl h.1) (ihr h.2) rfl rfl rfl rfl
  | and l r ihl ihr => exact .operator .and (by simp) (ihl h.1) (ihr h.2) rfl rfl rfl rfl
  | or l r ihl ihr => exact .operator .or (by simp) (ihl h.1) (ihr h.2) rfl rfl rfl rfl
  | coalesce l r ihl ihr =>
    exact .operator .coalesce (by simp) (ihl h.1) (ihr h.2) rfl rfl rfl rfl
  | negate e ih =>
    exact .of_reads ((ih h).reads.unary prefixed_of_minus (fun _ => rfl) rfl rfl rfl) hunary
  | not e ih =>
    exact .of_reads ((ih h).reads.unary prefixed_of_not (fun _ => rfl) rfl rfl rfl) hunary
  | index target key member iht ihk =>
    cases member with
    | false => exact .of_target (readsTarget_index (iht h.1) (ihk h.2).reads) rfl rfl
    | true =>
      -- The key of a member is a name, and what was said of keys in general is not needed.
      rcases h with ⟨htarget, name, rfl, hname⟩
      exact .of_target (readsTarget_member (iht htarget) hname) rfl rfl
  | filter call e ih =>
    exact .of_reads ((ih h.2).reads.filter h.1) (Nat.le_of_lt (Infix.rank_lt_unary .filter))

theorem parseChars_written {depth : Nat} (h : e.Printable) (hdepth : e.levels ≤ depth) :
    parseChars depth e.written.toList = .ok e := by
  have hlevels : e.bare 0 e.levels (e.levels + 1) ≤ depth := by
    rwa [bare, if_pos (Nat.zero_le _)]
  have hback : ReadBack depth e := readBack_of_printable h
  have hread := hback.reads.alone (admits_lowest 0) .finish (Nat.le_refl 0)
    (fun _ => not_continues_of_leftRank_le_zero) hlevels
  rw [enclose_zero, List.append_nil] at hread
  have hfinish : Lexeme.next [] = .ok ⟨.finish, [], []⟩ := rfl
  rw [hfinish, ok_bind] at hread
  have hchars : e.written.toList = e.chars := String.toList_ofList
  unfold parseChars
  rw [hchars, ← bind_assoc, hread]
  rfl

/-- A source of blanks has no tree. -/
theorem parseChars_of_isAllBlank {depth : Nat} {source : String}
    (h : Text.isAllBlank source = true) : parseChars depth source.toList ≠ .ok e := by
  have hdrop : source.toList.dropWhile Unicode.isBlank = [] := by
    rw [List.dropWhile_eq_nil_iff]
    simpa [Text.isAllBlank] using h
  have hnext : Lexeme.next source.toList = .ok ⟨.finish, [], []⟩ := by
    simp [Lexeme.next, hdrop, Token.read, Token.readSymbol?, Token.readNumber?, Token.readPath?]
  -- The end of the source is no operand, whatever the depth.
  unfold parseChars
  rw [hnext, ok_bind]
  cases depth with
  | zero => simp [operand, Bind.bind, Except.bind]
  | succ d => simp [operand_succ, prefixed, literal, Bind.bind, Except.bind]

/-- A text within the length limit has the tree of its characters. -/
theorem parse_of_parseChars {limits : Limits} {source : String}
    (hlength : source.length ≤ limits.length)
    (h : parseChars limits.depth source.toList = .ok e) : parse limits source = .ok e := by
  have hblank : ¬Text.isAllBlank source = true := fun hblank => parseChars_of_isAllBlank hblank h
  rw [parse_eq hblank hlength, h]
  rfl

/-- The parser gives back every tree that has a text, if the limits admit the text and its levels.
-/
theorem parse_written (limits : Limits) (h : e.Printable)
    (hlength : e.written.length ≤ limits.length) (hdepth : e.levels ≤ limits.depth) :
    parse limits e.written = .ok e :=
  parse_of_parseChars hlength (parseChars_written h hdepth)

/-- A tree with an index after a group, a filter and a right-grouped chain is read back. -/
theorem parse_written_index_filter :
    let e : Expr := .filter ⟨"round", some "0", [("mode", none)]⟩
      (.coalesce (.index (.arithmetic .add (.path "a") (.number ⟨false, 15, -1⟩)) (.text "k") false)
        (.coalesce .null (.index (.path "b") (.text "c") true)))
    (e.Printable ∧ e.written.length ≤ Limits.standard.length ∧ e.levels ≤ Limits.standard.depth) ∧
      parse .standard e.written = .ok e := by
  intro e
  have hpath {c : Char} (hc : Token.isName [c] = true) (hne : ¬IsKeyword (String.ofList [c])) :
      IsPath (String.ofList [c]) :=
    .inr ⟨⟨[c], hc, []⟩, by simp [PathText.text, PathText.chars],
      ⟨by simp [PathText.chars, Path.maxLength], by simp⟩, hne⟩
  have hprintable : e.Printable := by
    refine ⟨⟨by decide, by decide⟩, ⟨⟨?_, ?_⟩, trivial⟩, trivial, ?_, "c", rfl, ?_⟩
    · exact hpath (c := 'a') (by decide) (by simp [IsKeyword])
    · exact ⟨rfl, by decide⟩
    · exact hpath (c := 'b') (by decide) (by simp [IsKeyword])
    · exact ⟨by decide, by decide, by simp [IsKeyword]⟩
  have hlength : e.written.length ≤ Limits.standard.length := by decide
  have hdepth : e.levels ≤ Limits.standard.depth := by decide
  exact ⟨⟨hprintable, hlength, hdepth⟩, parse_written .standard hprintable hlength hdepth⟩

/-! ## Trees without a text -/

/-- A literal takes no index. -/
theorem parseChars_literal_index {depth : Nat} {word cs : List Char} {token : Token}
    (hspells : Spells word token) (hleaf : (leaf? token).isSome = true) {e : Expr} :
    parseChars depth (word ++ ' ' :: '[' :: cs) ≠ .ok e := by
  intro h
  rcases Option.isSome_iff_exists.1 hleaf with ⟨literal, hliteral⟩
  have hbracket : Lexeme.next (' ' :: '[' :: cs) = .ok ⟨.symbol .leftBracket, '[' :: cs, cs⟩ := rfl
  rw [parseChars, hspells _ (Token.endsWord_cons (.inl rfl) _)] at h
  cases depth with
  | zero => cases h
  | succ d =>
    -- The literal is the whole operand, and the bracket after it is not the end of the source.
    rw [ok_bind, operand_succ, prefixed_of_leaf hliteral, advance_mk, hbracket, ok_bind, ok_bind,
      chain_of_none rfl, ok_bind] at h
    cases h

/-- A member name that is longer than a path may be is refused. -/
theorem parseChars_long_member {depth : Nat} {name : String}
    (hname : Token.isName name.toList = true) (hkeyword : ¬IsKeyword name)
    (hlong : Path.maxLength < name.length) {e : Expr} :
    parseChars depth ('.' :: ' ' :: '.' :: name.toList) ≠ .ok e := by
  intro h
  have hdot := next_dot hname []
  rw [List.append_nil] at hdot
  have hmember := memberSegments_long hname hkeyword hlong
  have hpath : ofPath "." = .ok (.path ".") := by simp [ofPath, Path.split_scope]
  have hscope : Lexeme.next ('.' :: ' ' :: '.' :: name.toList)
      = .ok ⟨.path ".", '.' :: ' ' :: '.' :: name.toList, ' ' :: '.' :: name.toList⟩ := rfl
  rw [parseChars, hscope] at h
  cases depth with
  | zero => cases h
  | succ d =>
    -- The member is cut into its name before its level is spent.
    rw [ok_bind, operand_succ, prefixed_of_path rfl, advance_mk, Token.next_blank, hdot, ok_bind,
      hpath, ok_bind, postfixes_of_dot_error rfl hmember] at h
    cases h

theorem isNameRest_replicate (n : Nat) : Token.isNameRest (List.replicate n 'b') = true := by
  induction n with
  | zero => rfl
  | succ n ih => simp [List.replicate_succ, Token.isNameRest, ih, Token.isNameChar]

theorem parse_replicate_member {limits : Limits} {n : Nat} (hn : Path.maxLength ≤ n) {e : Expr} :
    parse limits (". ." ++ String.ofList (List.replicate (n + 1) 'b')) ≠ .ok e := by
  intro h
  obtain ⟨name, hname⟩ : ∃ name, name = String.ofList (List.replicate (n + 1) 'b') := ⟨_, rfl⟩
  rw [← hname] at h
  have hchars : name.toList = 'b' :: List.replicate n 'b' := by
    rw [hname, String.toList_ofList, List.replicate_succ]
  have hlength : name.length = n + 1 := by
    rw [← String.length_toList, hchars]
    simp
  have hisName : Token.isName name.toList = true := by
    rw [hchars, Token.isName, isNameRest_replicate]
    rfl
  -- All keywords are shorter.
  have hkeyword : ¬IsKeyword name := by
    have hbound : 1000 ≤ n := hn
    have hne : ∀ s : String, s.length ≤ 5 → name ≠ s := by
      rintro s hs rfl
      omega
    rintro (h | h | h)
    · exact hne "true" (by decide) h
    · exact hne "false" (by decide) h
    · exact hne "null" (by decide) h
  have hsource : (". ." ++ name).toList = '.' :: ' ' :: '.' :: name.toList := by
    rw [String.toList_append]
    rfl
  have hparse := parseChars_of_parse h
  rw [hsource] at hparse
  exact parseChars_long_member hisName hkeyword (by omega) hparse

/-- A literal takes no index, and a member name over the path limit is refused: these two trees are
not read back from the texts that the order of the operators alone would give them. -/
theorem not_parse_literal_index_nor_long_member :
    (∀ limits : Limits, parse limits "\"x\" [ 0 ]"
      ≠ .ok (.index (.text "x") (.number ⟨false, 0, 0⟩) false)) ∧
    (∀ limits : Limits, parse limits (". ." ++ String.ofList (List.replicate 1001 'b'))
      ≠ .ok (.index (.path ".") (.text (String.ofList (List.replicate 1001 'b'))) true)) := by
  constructor
  · intro limits h
    exact parseChars_literal_index (Token.spells_text "x") rfl (parseChars_of_parse h)
  · intro limits
    exact parse_replicate_member (Nat.le_refl _)

end Expr
end ReceiptTemplate
