import ReceiptTemplate.Expr.Evaluate

/-!
# Logical chains — operands of `&&`, `||` and `??` in any groups

The three operators share one shape: the left operand settles the outcome when it fails or when its value
decides, and otherwise the outcome is that of the right one.  Operands that are joined by one operator are
therefore evaluated from the left up to the first one that settles, whatever parentheses group them, and
what comes after it is never looked at.
-/

namespace ReceiptTemplate

/-! ## Operators -/

inductive Logical where
  | and | or | coalesce

namespace Logical

variable {op : Logical} {env : Surroundings} {es : List Expr} {e : Expr}

/-- The tree of two operands. -/
def join : Logical → Expr → Expr → Expr
  | .and => .and
  | .or => .or
  | .coalesce => .coalesce

/-- Whether the value of the left operand is the value of the whole. -/
def decides : Logical → Value → Bool
  | .and, v => !v.isTruthy
  | .or, v => v.isTruthy
  | .coalesce, v => !v.isNull

/-- Whether the outcome of the left operand is the outcome of the whole. -/
def settledBy (op : Logical) : Except EvalFault Value → Bool
  | .ok v => op.decides v
  | .error _ => true

theorem eval_join (op : Logical) (env : Surroundings) (l r : Expr) :
    (op.join l r).eval env = if op.settledBy (l.eval env) then l.eval env else r.eval env := by
  cases hl : l.eval env with
  | error fault => cases op <;> simp only [join, Expr.eval, hl] <;> rfl
  | ok v =>
    cases op with
    | and | or =>
      cases hv : v.isTruthy <;> simp [join, Expr.eval, settledBy, decides, hl, hv, bind, Except.bind]
    | coalesce =>
      cases hv : v.isNull <;> simp [join, Expr.eval, settledBy, decides, hl, hv, bind, Except.bind]

theorem notes_join (op : Logical) (env : Surroundings) (l r : Expr) :
    (op.join l r).notes env
      = l.notes env ++ if op.settledBy (l.eval env) then [] else r.notes env := by
  cases hl : l.eval env with
  | error fault => cases op <;> simp only [join, Expr.notes, hl] <;> rfl
  | ok v =>
    cases op with
    | and | or => cases hv : v.isTruthy <;> simp [join, Expr.notes, settledBy, decides, hl, hv]
    | coalesce => cases hv : v.isNull <;> simp [join, Expr.notes, settledBy, decides, hl, hv]

/-! ## Chains -/

/-- A tree joins operands, in their order, by one operator. -/
inductive Groups (op : Logical) : List Expr → Expr → Prop
  | operand (e : Expr) : Groups op [e] e
  | join {ls rs : List Expr} {l r : Expr} (hl : Groups op ls l) (hr : Groups op rs r) :
      Groups op (ls ++ rs) (op.join l r)

/-- The operands that are evaluated: those up to the first one that settles the outcome. -/
def reached (op : Logical) (env : Surroundings) : List Expr → List Expr
  | [] => []
  | e :: es => e :: if op.settledBy (e.eval env) then [] else op.reached env es

theorem reached_append (op : Logical) (env : Surroundings) (ls rs : List Expr) :
    op.reached env (ls ++ rs)
      = op.reached env ls
        ++ if ls.any fun e => op.settledBy (e.eval env) then [] else op.reached env rs := by
  induction ls with
  | nil => rfl
  | cons e ls ih =>
    rw [List.cons_append, reached, reached, List.any_cons, ih]
    cases op.settledBy (e.eval env) <;> rfl

/-- A tree settles the outcome when one of its operands does. -/
theorem Groups.settledBy (h : Groups op es e) (env : Surroundings) :
    op.settledBy (e.eval env) = es.any fun e => op.settledBy (e.eval env) := by
  induction h with
  | operand e => exact (Bool.or_false _).symm
  | @join ls rs l r hl hr ihl ihr =>
    rw [eval_join, List.any_append, ← ihl, ← ihr]
    cases hsettled : op.settledBy (l.eval env) with
    | true => exact hsettled
    | false => rfl

/-- A chain has the outcome of the last operand that is reached and the notes of all of them. -/
theorem Groups.reached (h : Groups op es e) (env : Surroundings) :
    (∃ before last, op.reached env es = before ++ [last] ∧ e.eval env = last.eval env) ∧
      e.notes env = (op.reached env es).flatMap fun e => e.notes env := by
  induction h with
  | operand e =>
    have hreached : op.reached env [e] = [e] := by simp [Logical.reached]
    rw [hreached]
    exact ⟨⟨[], e, rfl, rfl⟩, (List.append_nil _).symm⟩
  | @join ls rs l r hl hr ihl ihr =>
    obtain ⟨⟨before, last, hls, hl'⟩, hlnotes⟩ := ihl
    obtain ⟨⟨before', last', hrs, hr'⟩, hrnotes⟩ := ihr
    rw [reached_append, ← hl.settledBy, eval_join, notes_join]
    cases op.settledBy (l.eval env) with
    | true => exact ⟨⟨before, last, by simpa using hls, hl'⟩, by simpa using hlnotes⟩
    | false =>
      refine ⟨⟨op.reached env ls ++ before', last', ?_, hr'⟩, ?_⟩
      · rw [if_neg Bool.false_ne_true, hrs, List.append_assoc]
      · rw [if_neg Bool.false_ne_true, if_neg Bool.false_ne_true, List.flatMap_append, hlnotes,
          hrnotes]

/-- The groups of a chain change neither its outcome nor its notes. -/
theorem Groups.eval_eq {e' : Expr} (h : Groups op es e) (h' : Groups op es e')
    (env : Surroundings) : e.eval env = e'.eval env ∧ e.notes env = e'.notes env := by
  obtain ⟨⟨before, last, hreached, heval⟩, hnotes⟩ := h.reached env
  obtain ⟨⟨before', last', hreached', heval'⟩, hnotes'⟩ := h'.reached env
  have hlast : last = last' := by
    rw [hreached] at hreached'
    exact List.singleton_inj.1 (List.append_inj_right' hreached' rfl)
  exact ⟨by rw [heval, heval', hlast], hnotes.trans hnotes'.symm⟩

/-- Logical operators group freely and shield their right side.  Three operands give one value or fault,
and leave the same notes, under both groupings.  A left operand that fails, or whose value decides, gives
the outcome whatever the right one is, which is not evaluated; any other left operand leaves the outcome
to the right one. -/
theorem outcome_of_join (op : Logical) (env : Surroundings) (a b c : Expr) :
    (op.join a (op.join b c)).eval env = (op.join (op.join a b) c).eval env ∧
      (op.join a (op.join b c)).notes env = (op.join (op.join a b) c).notes env ∧
      (∀ fault, a.eval env = .error fault →
        (op.join a b).eval env = .error fault ∧ (op.join a b).notes env = a.notes env) ∧
      ∀ v, a.eval env = .ok v →
        (op.decides v = true →
          (op.join a b).eval env = .ok v ∧ (op.join a b).notes env = a.notes env) ∧
        (op.decides v = false →
          (op.join a b).eval env = b.eval env ∧
            (op.join a b).notes env = a.notes env ++ b.notes env) := by
  have hright : Groups op [a, b, c] (op.join a (op.join b c)) :=
    .join (.operand a) (.join (.operand b) (.operand c))
  have hleft : Groups op [a, b, c] (op.join (op.join a b) c) :=
    .join (.join (.operand a) (.operand b)) (.operand c)
  obtain ⟨heval, hnotes⟩ := hright.eval_eq hleft env
  refine ⟨heval, hnotes, ?fails, ?value⟩
  case fails =>
    intro fault ha
    rw [eval_join, notes_join, ha]
    exact ⟨rfl, List.append_nil _⟩
  case value =>
    intro v ha
    rw [eval_join, notes_join, ha]
    have hsettled : op.settledBy (.ok v) = op.decides v := rfl
    constructor
    · intro hdecides
      rw [hsettled, hdecides]
      exact ⟨rfl, List.append_nil _⟩
    · intro hdecides
      rw [hsettled, hdecides]
      exact ⟨rfl, rfl⟩

example (env : Surroundings) :
    (Expr.or (.text "cash") (.filter ⟨"unheardOf", none, []⟩ .null)).eval env
      = .ok (.text "cash") := by
  rfl

end Logical
end ReceiptTemplate
