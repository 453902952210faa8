import ReceiptTemplate.Proofs.Expr.ParserStep
import ReceiptTemplate.Proofs.Expr.Written

/-!
# Operand ends — where an operand is complete

An operand of some rank ends before the end of the source, before a closing bracket, and before an
operator that binds no tighter.  At such a place the parser reads no index and no member, a filter
call is over, and a chain of operators stops unless it is one that the next operator continues.
-/

namespace ReceiptTemplate
namespace Expr

open Token (EndsWord)

variable {limit : Nat} {e : Expr}

/-! ## Operators that continue an operand -/

/-- Every operator that binds at least as tightly as rank `k` continues an operand read at `p`. -/
def Admits (p : Precedence) (k : Nat) : Prop :=
  ∀ op : Infix, k ≤ op.rank → op.continues p = true

theorem admits_lowest (k : Nat) : Admits .lowest k := by
  intro op _
  have hpos := op.rank_pos
  simp only [Infix.rank] at hpos
  have hlowest : Precedence.lowest.rank = 0 := rfl
  simp [Infix.continues, hlowest, hpos]

theorem Admits.mono {p : Precedence} {k m : Nat} (h : Admits p k) (hkm : k ≤ m) : Admits p m :=
  fun op hop => h op (Nat.le_trans hkm hop)

/-- An operand on the right of an operator is continued by every operator that needs no parentheses
there. -/
theorem admits_rightRank (op : Infix) : Admits op.precedence op.rightRank := by
  intro op' hop'
  by_cases hcoalesce : op = .coalesce
  · -- `??` groups to the right: another one continues its right operand, and so does all above it.
    subst hcoalesce
    by_cases heq : op' = .coalesce
    · subst heq
      decide
    · have hrank : Infix.coalesce.rank ≠ op'.rank := by
        cases op' with
        | coalesce => exact absurd rfl heq
        | comparison _ => simp [Infix.rank, Infix.precedence, Precedence.rank]
        | arithmetic op' => cases op' <;> decide
        | _ => decide
      have hlt : Infix.coalesce.rank < op'.rank := Nat.lt_of_le_of_ne hop' hrank
      simp only [Infix.rank] at hlt
      simp [Infix.continues, hlt]
  · -- Every other operator leaves its right operand to what binds tighter.
    have hright : op.rightRank = op.rank + 1 := by
      cases op <;> first | rfl | exact absurd rfl hcoalesce
    rw [hright] at hop'
    have hlt : op.precedence.rank < op'.precedence.rank := hop'
    simp [Infix.continues, hlt]

/-- An operand on the right of an operator is not continued by an operator that takes the whole of
it as its left operand. -/
theorem not_continues_of_leftRank_le {op op' : Infix} (h : op'.leftRank ≤ op.rank) :
    op'.continues op.precedence = false := by
  have hrank : op'.rank ≤ op.rank := Nat.le_trans op'.rank_le_leftRank h
  have hnot : ¬op.precedence.rank < op'.precedence.rank := Nat.not_lt.2 hrank
  -- A `??` that follows its like would need a left operand that binds tighter.
  have hcoalesce : ¬(op' = .coalesce ∧ op.precedence = .coalesce) := by
    rintro ⟨rfl, hp⟩
    have hle : Infix.coalesce.rank + 1 ≤ op.precedence.rank := h
    rw [hp] at hle
    exact absurd hle (by decide)
  simpa [Infix.continues, hnot] using hcoalesce

theorem not_continues_unary (op : Infix) : op.continues .unary = false := by
  have hlt := op.rank_lt_unary
  simp only [Infix.rank] at hlt
  simp [Infix.continues]
  omega

/-- What continues an operator's right operand continues its left one. -/
theorem continues_trans {op op' : Infix} {p : Precedence} (h : op.continues p = true)
    (h' : op'.continues op.precedence = true) : op'.continues p = true := by
  simp only [Infix.continues, Bool.or_eq_true, Bool.and_eq_true, decide_eq_true_eq,
    beq_iff_eq] at h h' ⊢
  rcases h' with h' | ⟨rfl, hcoalesce⟩
  · rcases h with h | ⟨rfl, rfl⟩
    · exact .inl (Nat.lt_trans h h')
    · exact .inl h'
  · rw [hcoalesce] at h
    rcases h with h | ⟨-, rfl⟩
    · exact .inl h
    · exact .inr ⟨rfl, rfl⟩

/-- No operator leaves its left operand without rank. -/
theorem not_continues_of_leftRank_le_zero {op : Infix} {p : Precedence} (h : op.leftRank ≤ 0) :
    op.continues p = false := by
  have hpos := op.rank_pos
  have hle := op.rank_le_leftRank
  omega

/-! ## What may follow an operand -/

/-- What follows an operand of rank `k`: the end, a closing bracket, or an operator that takes the
operand on its left without parentheses. -/
inductive OperandEnd (k : Nat) : List Char → Prop
  | finish : OperandEnd k []
  | group (cs : List Char) : OperandEnd k (')' :: cs)
  | key (cs : List Char) : OperandEnd k (' ' :: ']' :: cs)
  | operator (op : Infix) (h : op.leftRank ≤ k) (cs : List Char) :
      OperandEnd k (' ' :: (op.symbol.text.toList ++ ' ' :: cs))

namespace OperandEnd

variable {k m : Nat} {rest : List Char}

theorem mono (h : OperandEnd k rest) (hkm : k ≤ m) : OperandEnd m rest := by
  cases h with
  | finish => exact .finish
  | group cs => exact .group cs
  | key cs => exact .key cs
  | operator op hop cs => exact .operator op (Nat.le_trans hop hkm) cs

theorem endsWord (h : OperandEnd k rest) : EndsWord rest := by
  cases h with
  | finish => simp [EndsWord]
  | group cs => exact Token.endsWord_cons (.inr (.inl rfl)) _
  | key cs => exact Token.endsWord_cons (.inl rfl) _
  | operator op _ cs => exact Token.endsWord_cons (.inl rfl) _

theorem next_operator (op : Infix) (cs : List Char) :
    Lexeme.next (' ' :: (op.symbol.text.toList ++ ' ' :: cs))
      = .ok ⟨.symbol op.symbol, op.symbol.text.toList ++ ' ' :: cs, ' ' :: cs⟩ := by
  cases op with
  | comparison op => cases op <;> rfl
  | arithmetic op => cases op <;> rfl
  | _ => rfl

/-- No name follows an operand, so a filter call before it ends there. -/
theorem endsCall (h : OperandEnd k rest) : FilterCall.EndsCall rest := by
  refine ⟨h.endsWord, ?_⟩
  cases h with
  | finish => simp
  | group cs =>
    have hdrop : (')' :: cs).dropWhile Unicode.isBlank = ')' :: cs := rfl
    simp only [hdrop, List.head?_cons, Option.mem_some_iff, forall_eq']
    decide
  | key cs =>
    have hdrop : (' ' :: ']' :: cs).dropWhile Unicode.isBlank = ']' :: cs := rfl
    simp only [hdrop, List.head?_cons, Option.mem_some_iff, forall_eq']
    decide
  | operator op _ cs =>
    -- The characters that are left start with the symbol, which is not a letter.
    have hdrop : (' ' :: (op.symbol.text.toList ++ ' ' :: cs)).dropWhile Unicode.isBlank
        = op.symbol.text.toList ++ ' ' :: cs := by
      cases op with
      | comparison op => cases op <;> rfl
      | arithmetic op => cases op <;> rfl
      | _ => rfl
    rw [hdrop]
    intro c hc
    cases op with
    | comparison op => cases op <;> cases hc <;> decide
    | arithmetic op => cases op <;> cases hc <;> decide
    | _ => cases hc; decide

/-- The token after an operand opens no index and no member, and is no operator that binds tighter.
-/
theorem next (h : OperandEnd k rest) :
    ∃ t, Lexeme.next rest = .ok t ∧ t.token ≠ .symbol .leftBracket ∧ t.token ≠ .symbol .dot ∧
      ∀ op, Infix.ofToken? t.token = some op → op.leftRank ≤ k := by
  cases h with
  | finish => exact ⟨⟨.finish, [], []⟩, rfl, by simp, by simp, by simp [Infix.ofToken?]⟩
  | group cs =>
    exact ⟨⟨.symbol .rightParen, ')' :: cs, cs⟩, rfl, by simp, by simp, by simp [Infix.ofToken?]⟩
  | key cs =>
    exact ⟨⟨.symbol .rightBracket, ']' :: cs, cs⟩, rfl, by simp, by simp, by simp [Infix.ofToken?]⟩
  | operator op hop cs =>
    refine ⟨_, next_operator op cs, ?_, ?_, ?_⟩
    · simpa using op.symbol_ne rfl
    · simpa using op.symbol_ne rfl
    · intro op' h
      rw [Infix.ofToken?_symbol, Option.some.injEq] at h
      exact h ▸ hop

/-- No index and no member is read after an operand. -/
theorem postfixes_eq (h : OperandEnd k rest) (d : Nat) (e : Expr) :
    (Lexeme.next rest >>= postfixes limit d [] e) = Lexeme.next rest >>= fun t => .ok (e, t) := by
  rcases h.next with ⟨t, hnext, hbracket, hdot, -⟩
  rw [hnext]
  exact postfixes_of_other hbracket hdot

/-- A chain ends at an operand that the next operator does not continue. -/
theorem chain_eq (h : OperandEnd k rest) {p : Precedence}
    (hp : ∀ op : Infix, op.leftRank ≤ k → op.continues p = false) (d : Nat) (compared : Bool)
    (e : Expr) :
    (Lexeme.next rest >>= chain limit d p compared e)
      = Lexeme.next rest >>= fun t => .ok (e, t) := by
  rcases h.next with ⟨t, hnext, -, -, hop⟩
  rw [hnext]
  cases htoken : Infix.ofToken? t.token with
  | none => exact chain_of_none htoken
  | some op => exact chain_of_not_continues htoken (hp op (hop op htoken))

end OperandEnd

end Expr
end ReceiptTemplate
