import ReceiptTemplate.Proofs.Expr.OuterOperators

/-!
# Failing operators — a fault behind an operand

The parser reads an operand and then the operator after it, whichever chain the operator goes on
with.  So a fault that the operator runs into is the fault of the whole text: what stands before the
operator is read as it is on its own, and what stands behind the fault is not read at all.

An operator that is a comparison must not meet another one in its chain.  It does not after a tight
operand.
-/

namespace ReceiptTemplate
namespace Expr

variable {d n : Nat} {p : Precedence} {op : Infix} {fault : Fault} {task : Task} {e : Expr}
  {cs tail : List Char} {after t u v : Lexeme}

/-! ## Faults of operands and operators -/

/-- An operand that starts at `t` and is read at `p` runs into the fault if there are `n` levels. -/
def OperandFails (n : Nat) (p : Precedence) (fault : Fault) (t : Lexeme) : Prop :=
  ∀ limit d, n ≤ d → operand limit d p t = .error fault

/-- A chain that goes on with the operator at `t` runs into the fault if there are `n` levels. -/
structure OperatorFails (n : Nat) (op : Infix) (fault : Fault) (t : Lexeme) : Prop where
  operator : Infix.ofToken? t.token = some op
  chain : ∀ limit d p compared e, n ≤ d → op.continues p = true →
    (op.precedence = .comparison → compared = false) → chain limit d p compared e t = .error fault

/-- An operator fails if its right operand does. -/
theorem OperandFails.operatorFails (h : OperandFails n op.precedence fault u)
    (ht : Infix.ofToken? t.token = some op) (hfilter : op ≠ .filter) (hu : t.advance = .ok u) :
    OperatorFails (n + 1) op fault t := by
  refine ⟨ht, ?_⟩
  intro limit d p compared e hd hp hcompared
  obtain ⟨d, rfl⟩ : ∃ d', d = d' + 1 := ⟨d - 1, by omega⟩
  rw [chain_of_operator ht hfilter hp hcompared, hu, ok_bind, h limit d (by omega)]
  rfl

/-- Chains that one comparison goes on with are those that any goes on with. -/
theorem continues_comparison {op' : Infix} (hop : op.precedence = .comparison)
    (hop' : op'.precedence = .comparison) (h : op.continues p = true) : op'.continues p = true := by
  have hcoalesce : op ≠ .coalesce := by
    rintro rfl
    cases hop
  have hlt : p.rank < Precedence.comparison.rank := by
    simpa [Infix.continues, hop, hcoalesce] using h
  simp [Infix.continues, hop', hlt]

/-- A comparison fails if another one stands behind its right operand. -/
theorem operatorFails_of_compared {op' : Infix} (ht : Infix.ofToken? t.token = some op)
    (hop : op.precedence = .comparison) (hu : t.advance = .ok u)
    (hright : Derives d (.operand .comparison u) e v) (hv : Infix.ofToken? v.token = some op')
    (hop' : op'.precedence = .comparison) :
    OperatorFails (d + 1) op (.at .chainedComparison v.start) t := by
  refine ⟨ht, ?_⟩
  intro limit d' p compared l hd hp hcompared
  obtain ⟨k, rfl⟩ : ∃ k, d' = k + 1 := ⟨d' - 1, by omega⟩
  have hfilter : op ≠ .filter := by
    rintro rfl
    cases hop
  have hright : operand limit k op.precedence u = .ok (e, v) := by
    rw [hop]
    exact (hright.mono (by omega)).run limit
  have hflag : (op.precedence == .comparison) = true := by
    rw [hop]
    rfl
  rw [chain_of_operator ht hfilter hp hcompared, hu, ok_bind, hright, ok_bind, hflag]
  exact chain_of_compared hv (continues_comparison hop hop' hp) hop'

/-! ## Operands before a failing operator -/

/-- Whether an operator goes on with a task where it ends. -/
def Task.ContinuedBy (op : Infix) : Task → Prop
  | .operand p _ => op.continues p = true
  | .chain p compared _ _ =>
    op.continues p = true ∧ (op.precedence = .comparison → compared = false)
  | .prefixed _ | .postfixes _ _ _ => False

/-- What is derived up to the end of a text fails before an operator that fails. -/
theorem Derives.fails (h : Derives d task e v) (hv : v.token = .finish)
    (htail : Adjoins tail after) (hafter : OperatorFails n op fault after)
    (hop : task.ContinuedBy op) (htight : op.precedence = .comparison → Tight 0 task.lexeme)
    (hu : Lexeme.Followed tail after task.lexeme u) {limit d' : Nat} (hd : d + n ≤ d') :
    (task.at u).run limit d' = .error fault := by
  induction h generalizing u d' with
  | operand hfirst hchain ihfirst ihchain =>
    obtain ⟨k, rfl⟩ : ∃ k, d' = k + 1 := ⟨d' - 1, by omega⟩
    rcases hfirst.followed htail (fun _ => trivial) hu with hopen | ⟨w, hw, hfirst'⟩
    · exact absurd hv (hchain.unclosed hopen).ne_finish
    · have hprefixed : prefixed limit k u = .ok (_, w) := (hfirst'.mono (by omega)).run limit
      rw [Task.at, Task.run, operand_succ, hprefixed]
      exact ihchain hv ⟨hop, fun _ => rfl⟩ (fun h => hfirst.tight (htight h)) hw (by omega)
  | last ht =>
    rw [hu.eq_after hv]
    exact hafter.chain limit d' _ _ _ (by omega) hop.1 hop.2
  | looser ht => exact absurd hv (ne_finish_of_operator ht)
  | filter ht hp hcall hchain ih =>
    obtain ⟨k, rfl⟩ : ∃ k, d' = k + 1 := ⟨d' - 1, by omega⟩
    rcases filterCall_followed htail hu (by simp [Task.lexeme, ht]) hcall with
      hopen | ⟨w, hw, hcall'⟩
    · exact absurd hv (hchain.unclosed hopen).ne_finish
    · have hpipe := hu.token_eq ht (by simp)
      rw [Task.at, Task.run, chain_of_filter hpipe hp, hcall']
      refine ih hv ⟨hop.1, fun _ => rfl⟩ (fun h => ?_) hw (by omega)
      exact (htight h).of_call (by rw [Task.lexeme, ht]; rfl) hcall
  | @operator d p compared l r e t x w v op' ht hfilter hp hcompared hx hright hchain ihright
      ihchain =>
    obtain ⟨k, rfl⟩ : ∃ k, d' = k + 1 := ⟨d' - 1, by omega⟩
    have hne := ne_finish_of_operator ht
    have ht' : Infix.ofToken? u.token = some op' := by rw [hu.token_eq rfl hne]; exact ht
    have hother := nesting_of_operator ht
    rw [if_neg hfilter] at hother
    have htightRight (h : op.precedence = .comparison) : Tight 0 x :=
      (htight h).of_other hother hne hx
    rcases hu.advance htail hne hx with hopen | ⟨x', hfx, hx'⟩
    · exact absurd hv (hchain.unclosed (hright.unclosed hopen)).ne_finish
    rw [Task.at, Task.run, chain_of_operator ht' hfilter hp hcompared, hx', ok_bind]
    by_cases hmeets : w.token = .finish ∧ op.continues op'.precedence = true
    · -- The right operand is the last one, and the failing operator goes on with it.
      have hfails := ihright hmeets.1 hmeets.2 htightRight hfx (by omega : _ ≤ k)
      rw [Task.at, Task.run] at hfails
      rw [hfails]
      rfl
    · have hend : w.token = .finish → (Task.operand op'.precedence x).EndsBefore after := by
        intro hw next hnext
        rw [hafter.operator] at hnext
        cases hnext
        rw [Bool.eq_false_iff]
        exact fun hcontinues => hmeets ⟨hw, hcontinues⟩
      rcases hright.followed htail hend hfx with hopen | ⟨w', hfw, hright'⟩
      · exact absurd hv (hchain.unclosed hopen).ne_finish
      have hoperand : Expr.operand limit k op'.precedence x' = .ok (r, w') :=
        (hright'.mono (by omega)).run limit
      rw [hoperand, ok_bind]
      refine ihchain hv ⟨hop.1, fun h => ?_⟩ (fun h => hright.tight (htightRight h)) hfw (by omega)
      -- In front of a comparison the text is tight, so that this operator is none.
      rw [beq_eq_false_iff_ne]
      intro hcomparison
      refine (htight h).not_isLoose ht ?_
      rw [IsLoose, Infix.rank, hcomparison]
  | _ => exact hop.elim

/-! ## Texts that fail -/

/-- The text is read as an operand at `p` up to the fault if there are `n` levels. -/
def Fails (n : Nat) (p : Precedence) (fault : Fault) (cs : List Char) : Prop :=
  ∃ t, Lexeme.next cs = .ok t ∧ OperandFails n p fault t

theorem Derives.text_fails (h : Derives d (.operand p t) e v) (ht : Lexeme.next cs = .ok t)
    (hv : v.token = .finish) (htail : Adjoins tail after) (hafter : OperatorFails n op fault after)
    (hop : op.continues p = true) (htight : op.precedence = .comparison → Tight 0 t) :
    Fails (d + n) p fault (cs ++ tail) := by
  rcases h.next_followed hv htail ht with ⟨u, hfollowed, hu⟩
  exact ⟨u, hu, fun limit d' hd => h.fails hv htail hafter hop htight hfollowed hd⟩

namespace Fails

theorem blanks {ws : List Char} (h : Fails n p fault cs) (hws : Blanks ws) :
    Fails n p fault (ws ++ cs) := by
  rcases h with ⟨t, ht, hfails⟩
  exact ⟨t, by rw [Lexeme.next_blanks hws, ht], hfails⟩

/-- An operand that starts with a symbol fails if what it reads after the symbol does. -/
theorem prefixed {q : Precedence} (h : Fails n q fault cs) (s : Symbol)
    (hnext : Lexeme.next (s.text.toList ++ cs) = .ok ⟨.symbol s, s.text.toList ++ cs, cs⟩)
    (hprefixed : ∀ {limit d : Nat} {t : Lexeme}, t.token = .symbol s →
      ∃ f, Expr.prefixed limit d t = (t.advance >>= operand limit d q) >>= f) :
    Fails (n + 1) p fault (s.text.toList ++ cs) := by
  rcases h with ⟨t, ht, hfails⟩
  refine ⟨_, hnext, ?_⟩
  intro limit d hd
  obtain ⟨k, rfl⟩ : ∃ k, d = k + 1 := ⟨d - 1, by omega⟩
  rcases @hprefixed limit k ⟨.symbol s, s.text.toList ++ cs, cs⟩ rfl with ⟨f, hf⟩
  rw [operand_succ, hf, advance_mk, ht, ok_bind, hfails limit k (by omega)]
  rfl

theorem group (h : Fails n .lowest fault cs) : Fails (n + 1) p fault ('(' :: cs) :=
  h.prefixed .leftParen rfl fun ht => ⟨_, prefixed_of_leftParen ht⟩

theorem negate (h : Fails n .unary fault cs) : Fails (n + 1) p fault ('-' :: cs) :=
  h.prefixed .minus rfl fun ht => ⟨_, prefixed_of_minus ht⟩

/-- Before `=` the exclamation mark would be part of another symbol. -/
theorem not (h : Fails n .unary fault cs) (hcs : cs.head? ≠ some '=') :
    Fails (n + 1) p fault ('!' :: cs) := by
  have hread : Token.readSymbol? ('!' :: cs) = some (.not, cs) := by
    cases cs with
    | nil => rfl
    | cons c cs =>
      have hc : c ≠ '=' := by simpa using hcs
      simp [Token.readSymbol?, hc]
  have hnext : Lexeme.next ('!' :: cs) = .ok ⟨.symbol .not, '!' :: cs, cs⟩ := by
    apply Token.next_of_read (by decide)
    rw [Token.read, hread]
  exact h.prefixed .not hnext fun ht => ⟨_, prefixed_of_not ht⟩

/-- A text in which an operand stands before an operator fails if what follows the operator does. -/
theorem operator {x : List Char} (h : Fails n op.precedence fault cs) (hx : parseChars d x = .ok e)
    (hfilter : op ≠ .filter)
    (htight : op.precedence = .comparison → IsTight x) :
    Fails (d + (n + 1)) .lowest fault (x ++ ' ' :: (op.symbol.text.toList ++ ' ' :: cs)) := by
  rcases h with ⟨u, hu, hfails⟩
  rcases parseChars_eq_ok_iff.1 hx with ⟨t, v, ht, hderives, hv⟩
  have hoperator : OperatorFails (n + 1) op fault
      ⟨.symbol op.symbol, op.symbol.text.toList ++ ' ' :: cs, ' ' :: cs⟩ := by
    refine OperandFails.operatorFails hfails (Infix.ofToken?_symbol op) hfilter ?_
    rw [advance_mk, Token.next_blank, hu]
  refine hderives.text_fails ht hv (adjoins_operator op cs) hoperator ?_ ?_
  · exact admits_lowest 0 op (Nat.zero_le _)
  · intro hcomparison
    rcases htight hcomparison with ⟨t', ht', htight'⟩
    cases ht.symm.trans ht'
    exact htight'

end Fails

theorem endsBefore_operator (h : op.continues p = false) (t : Lexeme) (start rest : List Char) :
    (Task.operand p t).EndsBefore ⟨.symbol op.symbol, start, rest⟩ := by
  intro next hnext
  rw [Infix.ofToken?_symbol, Option.some.injEq] at hnext
  exact hnext ▸ h

/-- With a tight operand behind it a comparison fails before another one. -/
theorem operatorFails_of_isTight {b : List Char} (hb : parseChars d b = .ok e) (htight : IsTight b)
    (op op' : Comparison) (start cs : List Char) :
    OperatorFails (d + 1) (.comparison op)
      (.at .chainedComparison ((Infix.comparison op').symbol.text.toList ++ ' ' :: cs))
      ⟨.symbol (Infix.comparison op).symbol, start,
        ' ' :: (b ++ ' ' :: ((Infix.comparison op').symbol.text.toList ++ ' ' :: cs))⟩ := by
  rcases derives_of_isTight hb htight with ⟨t, v, ht, -, hv, hderives⟩
  have hright := hderives .comparison (Nat.le_refl _)
  have hadjoins := adjoins_operator (.comparison op') cs
  rcases hright.next_followed hv hadjoins ht with ⟨u, hfollowed, hu⟩
  refine operatorFails_of_compared (Infix.ofToken?_symbol _) rfl ?_
    (hright.followed_end hv hadjoins (endsBefore_operator rfl _ _ _) hfollowed)
    (Infix.ofToken?_symbol _) rfl
  rw [advance_mk, Token.next_blank, hu]

/-- A comparison of tight operands fails before another one. -/
theorem fails_of_comparisons {a b : List Char} {d' : Nat} {l r : Expr}
    (hp : p.rank < Precedence.comparison.rank) (ha : parseChars d a = .ok l) (hatight : IsTight a)
    (hb : parseChars d' b = .ok r) (hbtight : IsTight b) (op op' : Comparison) (cs : List Char) :
    Fails (d + (d' + 1)) p
      (.at .chainedComparison ((Infix.comparison op').symbol.text.toList ++ ' ' :: cs))
      (a ++ ' ' :: ((Infix.comparison op).symbol.text.toList ++ ' ' ::
        (b ++ ' ' :: ((Infix.comparison op').symbol.text.toList ++ ' ' :: cs)))) := by
  rcases derives_of_isTight ha hatight with ⟨t, v, ht, htight, hv, hleft⟩
  have hcontinues : (Infix.comparison op).continues p = true := by
    simp [Infix.continues, Infix.precedence, hp]
  exact (hleft p hp.le).text_fails ht hv (adjoins_operator (.comparison op) _)
    (operatorFails_of_isTight hb hbtight op op' _ cs) hcontinues fun _ => htight

end Expr
end ReceiptTemplate
