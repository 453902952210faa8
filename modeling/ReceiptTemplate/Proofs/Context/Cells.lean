import ReceiptTemplate.Proofs.Context.StepRun

/-!
# Cells — a context whose variables are kept apart

`Cells` has all scopes in one list, the root first, and every loop variable in a cell of its own.  An
operation reads and writes cells one after the other and can break off between two of them, so that
nothing but the order of its checks keeps the cells together.  It goes through the same states as the
context, in which a position holds what the cells of a loop have in common, and so the invariants of a
context are invariants of the cells.
-/

namespace ReceiptTemplate
namespace Context

structure Cells where
  /-- The outermost scope first. -/
  scopes : List Value
  index : Option Int
  first : Bool
  last : Bool
  key : Option String

/-- The cells of a context. -/
def cells (c : Context) : Cells where
  scopes := c.root :: c.pushed.reverse
  index := c.loopIndex.map Int.ofNat
  first := c.isFirst
  last := c.isLast
  key := c.key

namespace Cells

variable {c c' : Context} {s : Cells}

/-! ## Operations on cells -/

/-- Writes to cells that can break off; what was written stays. -/
abbrev Program := EStateM StepFault Cells (Option Value)

def push (scope : Datum) : Program := do
  match scope with
  | .value v => modify fun s => { s with scopes := s.scopes ++ [v] }
  | scope => throw (.data (.badScope scope.typeName))
  return none

def pop : Program := do
  let s ← get
  if s.scopes.length ≤ 1 then throw (.context .rootPopped)
  set { s with scopes := s.scopes.dropLast }
  return s.scopes.getLast?

def setLoop (index count : Int) : Program := do
  if count ≤ 0 then throw (.context (.emptyLoop count))
  if ¬(0 ≤ index ∧ index < count) then throw (.context (.indexOutside index count))
  modify fun s => { s with index := some index }
  modify fun s => { s with first := index == 0 }
  modify fun s => { s with last := index == count - 1 }
  return none

def setKey (key : String) : Program := do
  modify fun s => { s with key := some (Text.strip key) }
  return none

def clearLoop : Program := do
  modify fun s => { s with index := none }
  modify fun s => { s with first := false }
  modify fun s => { s with last := false }
  modify fun s => { s with key := none }
  return none

def perform : Operation → Program
  | .push scope => push scope
  | .pop => pop
  | .setLoop index count => setLoop index count
  | .setKey key => setKey key
  | .clearLoop => clearLoop

/-- The cells after a step; an evaluation only reads them. -/
def after (s : Cells) : Step → Cells
  | .operate op =>
    match (perform op).run s with
    | .ok _ s' => s'
    | .error _ s' => s'
  | .evaluate .. => s

/-- The cells after steps, the first one first. -/
def run (s : Cells) (steps : List Step) : Cells :=
  steps.foldl after s

/-- Cells with an outcome. -/
def ended (s : Cells) : Except StepFault (Option Value) → EStateM.Result StepFault Cells (Option Value)
  | .ok result => .ok result s
  | .error fault => .error fault s

theorem cells_placed (c : Context) (p : LoopPosition) :
    ({ c with position := some p } : Context).cells
      = { c.cells with
          index := some (p.index : Int)
          first := (p.index : Int) == 0
          last := (p.index : Int) == p.count - 1 } := by
  have hfirst : (p.index == 0) = ((p.index : Int) == 0) := by
    rw [Bool.eq_iff_iff, beq_iff_eq, beq_iff_eq]
    omega
  have hlast : (p.index + 1 == p.count) = ((p.index : Int) == p.count - 1) := by
    rw [Bool.eq_iff_iff, beq_iff_eq, beq_iff_eq]
    omega
  simp only [cells, loopIndex, isFirst, isLast, Option.map_some, Option.getD_some,
    LoopPosition.isFirst, LoopPosition.isLast, hfirst, hlast]
  rfl

theorem run_push_of_not_value {scope : Datum} (h : ∀ v, scope ≠ .value v) (s : Cells) :
    (push scope).run s = .error (.data (.badScope scope.typeName)) s := by
  cases scope with
  | value v => exact absurd rfl (h v)
  | _ => rfl

theorem run_pop (s : Cells) :
    pop.run s =
      if s.scopes.length ≤ 1 then .error (.context .rootPopped) s
      else .ok s.scopes.getLast? { s with scopes := s.scopes.dropLast } := by
  show (if s.scopes.length ≤ 1 then _ else _ : Program).run s = _
  split <;> rfl

theorem run_setLoop (s : Cells) (index count : Int) :
    (setLoop index count).run s =
      if count ≤ 0 then .error (.context (.emptyLoop count)) s
      else if ¬(0 ≤ index ∧ index < count) then .error (.context (.indexOutside index count)) s
      else .ok none { s with index := some index, first := index == 0, last := index == count - 1 } := by
  dsimp only [setLoop]
  split
  · rfl
  · split <;> rfl

/-- Writing the cells one after the other is what the operation does to the context, also where it is
refused: every check stands before the first write. -/
theorem perform_cells (c : Context) (op : Operation) :
    (perform op).run c.cells
      = (c.after (.operate op)).cells.ended (c.respond (.operate op)).1 := by
  have h := c.performed op
  generalize (c.respond (.operate op)).1 = outcome, c.after (.operate op) = c' at h
  cases h with
  | pushed v =>
    have hcells : (c.push v).cells = { c.cells with scopes := c.cells.scopes ++ [v] } := by
      simp only [cells, Context.push, List.reverse_cons, List.cons_append]
      rfl
    rw [hcells]
    rfl
  | @popped v rest hpushed =>
    have hscopes : c.cells.scopes = (c.root :: rest.reverse) ++ [v] := by
      rw [cells, hpushed, List.reverse_cons, List.cons_append]
    rw [perform, run_pop, hscopes, List.getLast?_concat, List.dropLast_concat, if_neg (by simp)]
    rfl
  | placed p =>
    have := p.index_lt
    rw [perform, run_setLoop, if_neg (by omega), if_neg (by omega), cells_placed]
    rfl
  | keyed key => rfl
  | cleared => rfl
  | refused h =>
    cases h with
    | root hpushed =>
      have hlength : c.cells.scopes.length ≤ 1 := by simp [cells, hpushed]
      rw [perform, run_pop, if_pos hlength]
      rfl
    | noValue hscope => exact run_push_of_not_value hscope c.cells
    | emptyLoop hcount =>
      rw [perform, run_setLoop, if_pos hcount]
      rfl
    | indexOutside hcount hindex =>
      rw [perform, run_setLoop, if_neg (Int.not_le.2 hcount), if_pos hindex]
      rfl

theorem after_cells (c : Context) (step : Step) : c.cells.after step = (c.after step).cells := by
  cases step with
  | evaluate tree filters locale => rfl
  | operate op =>
    rw [after, perform_cells]
    cases (c.respond (.operate op)).1 <;> rfl

theorem run_cells (c : Context) (steps : List Step) : c.cells.run steps = (c.run steps).cells := by
  induction steps generalizing c with
  | nil => rfl
  | cons step steps ih =>
    show (c.cells.after step).run steps = ((c.after step).run steps).cells
    rw [after_cells, ih]

end Cells

/-! ## What expressions see -/

variable {c c' : Context}

theorem getLast?_scopes (c : Context) : c.cells.scopes.getLast? = some c.current := by
  unfold cells current
  cases c.pushed with
  | nil => rfl
  | cons v rest => rw [List.reverse_cons, ← List.cons_append, List.getLast?_concat]

/-- Expressions see what is in the cells. -/
theorem eval_of_cells (h : c.cells = c'.cells) (tree : Expr) (filters : FilterRegistry)
    (locale : Locale) : tree.eval ⟨c, filters, locale⟩ = tree.eval ⟨c', filters, locale⟩ := by
  apply Expr.eval_of_resolve
  intro path _
  have hcurrent : c.current = c'.current := by
    have hscopes : c.cells.scopes.getLast? = c'.cells.scopes.getLast? := by rw [h]
    rwa [getLast?_scopes, getLast?_scopes, Option.some.injEq] at hscopes
  have hindex : c.loopIndex = c'.loopIndex :=
    Option.map_injective (fun m n => Int.ofNat.inj) (congrArg Cells.index h)
  have hfirst : c.isFirst = c'.isFirst := congrArg Cells.first h
  have hlast : c.isLast = c'.isLast := congrArg Cells.last h
  have hkey : c.key = c'.key := congrArg Cells.key h
  have hvariable : c.loopVariable path = c'.loopVariable path := by
    simp only [loopVariable, hindex, hfirst, hlast, hkey]
  simp only [resolve, hcurrent, hvariable]

/-- A context is at the first item of a loop exactly when the index is zero, and at the last one only if
there is an index. -/
theorem isFirst_iff (c : Context) : c.isFirst = true ↔ c.loopIndex = some 0 := by
  unfold isFirst loopIndex
  cases c.position <;> simp [LoopPosition.isFirst]

theorem loopIndex_of_isLast (h : c.isLast = true) : c.loopIndex ≠ none := by
  unfold isLast at h
  unfold loopIndex
  cases hposition : c.position <;> simp_all

/-! ## Discipline -/

/-- Whether an operation is about scopes and not about loop variables. -/
def Operation.movesScopes : Operation → Bool
  | .push _ | .pop => true
  | .setLoop .. | .setKey _ | .clearLoop => false

theorem cells_after_of_movesScopes {op : Operation} (h : op.movesScopes = true) (c : Context) :
    (c.after (.operate op)).cells
      = { c.cells with scopes := (c.after (.operate op)).cells.scopes } := by
  have hperformed := c.performed op
  generalize (c.respond (.operate op)).1 = outcome, c.after (.operate op) = c' at hperformed
  cases hperformed with
  | refused _ => rfl
  | pushed v => rfl
  | popped hpushed => rfl
  | placed p => cases h
  | keyed key => cases h
  | cleared => cases h

theorem scopes_after_of_not_movesScopes {op : Operation} (h : op.movesScopes = false)
    (c : Context) : (c.after (.operate op)).cells.scopes = c.cells.scopes := by
  rcases c.pushed_after (.operate op) with hkept | ⟨v, hop, -⟩ | ⟨v, hop, -⟩
  · rw [cells, cells, root_after, hkept]
  · cases hop
    cases h
  · cases hop
    cases h

/-- What a loop variable shows is what its cell holds, and null where the cell is empty. -/
theorem eval_index (c : Context) (filters : FilterRegistry) (locale : Locale) :
    (Expr.path "@index").eval ⟨c, filters, locale⟩
      = .ok (match c.loopIndex with
        | some n => .number (.ofNat n)
        | none => .null) := by
  rfl

theorem eval_first (c : Context) (filters : FilterRegistry) (locale : Locale) :
    (Expr.path "@first").eval ⟨c, filters, locale⟩ = .ok (.bool c.isFirst) := by
  rfl

theorem eval_last (c : Context) (filters : FilterRegistry) (locale : Locale) :
    (Expr.path "@last").eval ⟨c, filters, locale⟩ = .ok (.bool c.isLast) := by
  rfl

theorem eval_first_iff (c : Context) (filters : FilterRegistry) (locale : Locale) :
    (Expr.path "@first").eval ⟨c, filters, locale⟩ = .ok (.bool true) ↔
      (Expr.path "@index").eval ⟨c, filters, locale⟩ = .ok (.number (.ofNat 0)) := by
  rw [eval_first, eval_index, Except.ok.injEq, Value.bool.injEq, isFirst_iff]
  cases c.loopIndex <;> simp [Decimal.ofNat]

theorem eval_index_of_last {filters : FilterRegistry} {locale : Locale}
    (h : (Expr.path "@last").eval ⟨c, filters, locale⟩ = .ok (.bool true)) :
    (Expr.path "@index").eval ⟨c, filters, locale⟩ ≠ .ok .null := by
  rw [eval_last, Except.ok.injEq, Value.bool.injEq] at h
  obtain ⟨n, hindex⟩ := Option.ne_none_iff_exists'.1 (loopIndex_of_isLast h)
  rw [eval_index, hindex]
  simp

/-- What steps of any kind and in any order, failing ones among them, leave of a context over a root value.
The root stays, and there is always a scope.  Cells that are written one after the other go through the
same states with the same outcomes.  An operation fails exactly when it pops the root, pushes what is no
value, or names a count that is not positive or an index that is not below the count, and a step that fails
leaves every cell as it was.  A stretch that pops what it pushes restores the scopes; the pop after a
balanced stretch gives back the scope that was pushed before it, and every pop has such a push.  `@first`
is true exactly when `@index` is zero, and `@last` is true only if there is an index.  Scopes and loop
variables leave one another alone, and evaluations see nothing but the cells. -/
theorem discipline_of_run (root : Value) (steps : List Step) :
    let c := (ofValue root).run steps
    (c.root = root ∧ c.cells.scopes.head? = some root ∧ c.cells.scopes.length = c.depth ∧
      1 ≤ c.depth) ∧
    (ofValue root).cells.run steps = c.cells ∧
    (∀ op, (Cells.perform op).run c.cells
      = (c.after (.operate op)).cells.ended (c.respond (.operate op)).1) ∧
    (∀ op fault, (c.respond (.operate op)).1 = .error fault ↔ c.Refuses op fault) ∧
    (∀ step fault, (c.respond step).1 = .error fault →
      c.after step = c ∧ c.cells.after step = c.cells) ∧
    (∀ stretch, c.Balanced stretch → (c.run stretch).cells.scopes = c.cells.scopes) ∧
    (∀ v stretch, (c.push v).Balanced stretch →
      let inner := (c.push v).run stretch
      (inner.respond (.operate .pop)).1 = .ok (some v) ∧
        (inner.after (.operate .pop)).cells.scopes = c.cells.scopes) ∧
    (∀ v, (c.respond (.operate .pop)).1 = .ok (some v) →
      ∃ before stretch, steps = before ++ .operate (.push (.value v)) :: stretch ∧
        (((ofValue root).run before).push v).Balanced stretch) ∧
    (c.cells.first = true ↔ c.cells.index = some 0) ∧
    (c.cells.last = true → c.cells.index ≠ none) ∧
    (∀ filters locale,
      let shown (name : String) := (Expr.path name).eval ⟨c, filters, locale⟩
      (shown "@first" = .ok (.bool true) ↔ shown "@index" = .ok (.number (.ofNat 0))) ∧
        (shown "@last" = .ok (.bool true) → shown "@index" ≠ .ok .null)) ∧
    (∀ op : Operation, op.movesScopes = true →
      (c.after (.operate op)).cells
        = { c.cells with scopes := (c.after (.operate op)).cells.scopes }) ∧
    (∀ op : Operation, op.movesScopes = false →
      (c.after (.operate op)).cells.scopes = c.cells.scopes) ∧
    ∀ c' : Context, c.cells = c'.cells → ∀ (tree : Expr) filters locale,
      tree.eval ⟨c, filters, locale⟩ = tree.eval ⟨c', filters, locale⟩ := by
  intro c
  have hroot : c.root = root := root_run (ofValue root) steps
  have hfirst : c.cells.first = true ↔ c.cells.index = some 0 := by
    refine c.isFirst_iff.trans ?_
    show c.loopIndex = some 0 ↔ c.loopIndex.map Int.ofNat = some 0
    cases c.loopIndex <;> simp
  have hlast : c.cells.last = true → c.cells.index ≠ none := by
    intro hlast hindex
    exact loopIndex_of_isLast hlast (Option.map_eq_none_iff.1 hindex)
  refine ⟨⟨hroot, congrArg some hroot, ?length, c.depth_pos⟩, Cells.run_cells _ steps,
    Cells.perform_cells c, fun op fault => respond_eq_error_iff, ?failure, ?balanced, ?popped, ?pushed,
    hfirst, hlast, ?shown, ?scopes, ?loop, fun c' => eval_of_cells⟩
  case length => simp [cells, depth]
  case failure =>
    intro step fault hfault
    have hafter := after_of_error hfault
    exact ⟨hafter, by rw [Cells.after_cells, hafter]⟩
  case balanced =>
    intro stretch hbalanced
    rw [cells, cells, root_run, hbalanced.pushed]
  case popped =>
    intro v stretch hbalanced inner
    have hrespond : inner.respond (.operate .pop) = (.ok (some v), { inner with pushed := c.pushed }) :=
      pop_of_balanced hbalanced
    have hinner : inner.root = c.root := root_run (c.push v) stretch
    rw [after, hrespond]
    refine ⟨rfl, ?_⟩
    rw [cells, cells, ← hinner]
  case pushed =>
    intro v hpop
    obtain ⟨rest, hrest⟩ := pushed_of_pop hpop
    obtain ⟨before, stretch, hsteps, -, hbalanced⟩ := push_of_pushed rfl hrest
    exact ⟨before, stretch, hsteps, hbalanced⟩
  case shown =>
    intro filters locale shown
    exact ⟨eval_first_iff c filters locale, eval_index_of_last⟩
  case scopes =>
    intro op hop
    exact cells_after_of_movesScopes hop c
  case loop =>
    intro op hop
    exact scopes_after_of_not_movesScopes hop c

end Context
end ReceiptTemplate
