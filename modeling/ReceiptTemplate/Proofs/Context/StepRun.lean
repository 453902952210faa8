import ReceiptTemplate.Proofs.Expr.Mentioned

/-!
# Runs of a context — scopes and loop variables after any steps

A context is changed by operations and read by evaluations, in any order, and steps may fail.
`Performed` says once what an operation can do.  From it follows what every run keeps: the root, the
scopes below the depth to which a stretch of steps goes down, and so the scope stack over a stretch that
returns to the depth at which it began.
-/

namespace ReceiptTemplate
namespace Context

variable {c c' : Context} {v : Value}

/-! ## Steps -/

/-- Why a step fails. -/
inductive StepFault where
  | data (fault : DataFault)
  | context (fault : ContextFault)
  | eval (fault : EvalFault)

/-- What changes a context. -/
inductive Operation where
  | push (scope : Datum)
  | pop
  | setLoop (index count : Int)
  | setKey (key : String)
  | clearLoop

inductive Step where
  | operate (op : Operation)
  | evaluate (tree : Expr) (filters : FilterRegistry) (locale : Locale)

/-- What an operation gives, and the context after it. -/
def operate (c : Context) : Operation → Except StepFault (Option Value × Context)
  | .push scope => ((c.pushDatum scope).mapError .data).map fun c' => (none, c')
  | .pop => (c.pop.mapError .context).map fun p => (some p.1, p.2)
  | .setLoop index count => ((c.setLoop index count).mapError .context).map fun c' => (none, c')
  | .setKey key => .ok (none, c.setKey key)
  | .clearLoop => .ok (none, c.clearLoop)

/-- How a step ends, and the context after it. -/
def respond (c : Context) : Step → Except StepFault (Option Value) × Context
  | .operate op =>
    match c.operate op with
    | .error fault => (.error fault, c)
    | .ok (result, c') => (.ok result, c')
  | .evaluate tree filters locale =>
    (((tree.eval ⟨c, filters, locale⟩).mapError .eval).map some, c)

/-- The context after a step. -/
def after (c : Context) (step : Step) : Context :=
  (c.respond step).2

/-- The context after steps, the first one first. -/
def run (c : Context) (steps : List Step) : Context :=
  steps.foldl after c

theorem run_append (c : Context) (steps more : List Step) :
    c.run (steps ++ more) = (c.run steps).run more :=
  List.foldl_append

/-! ## What an operation can do -/

/-- The operations that a context refuses, and why. -/
inductive Refuses (c : Context) : Operation → StepFault → Prop
  | root (hpushed : c.pushed = []) : Refuses c .pop (.context .rootPopped)
  | noValue {scope : Datum} (hscope : ∀ v, scope ≠ .value v) :
      Refuses c (.push scope) (.data (.badScope scope.typeName))
  /-- The count is looked at before the index. -/
  | emptyLoop {index count : Int} (hcount : count ≤ 0) :
      Refuses c (.setLoop index count) (.context (.emptyLoop count))
  | indexOutside {index count : Int} (hcount : 0 < count) (hindex : ¬(0 ≤ index ∧ index < count)) :
      Refuses c (.setLoop index count) (.context (.indexOutside index count))

/-- Everything that an operation can do: how it ends, and the context after it. -/
inductive Performed (c : Context) : Operation → Except StepFault (Option Value) → Context → Prop
  | refused {op : Operation} {fault : StepFault} (h : c.Refuses op fault) :
      Performed c op (.error fault) c
  | pushed (v : Value) : Performed c (.push (.value v)) (.ok none) (c.push v)
  | popped {v : Value} {rest : List Value} (hpushed : c.pushed = v :: rest) :
      Performed c .pop (.ok (some v)) { c with pushed := rest }
  | placed (p : LoopPosition) :
      Performed c (.setLoop p.index p.count) (.ok none) { c with position := some p }
  | keyed (key : String) : Performed c (.setKey key) (.ok none) (c.setKey key)
  | cleared : Performed c .clearLoop (.ok none) c.clearLoop

theorem positionAt_cases (index count : Int) :
    (count ≤ 0 ∧ positionAt index count = .error (.emptyLoop count)) ∨
      (0 < count ∧ ¬(0 ≤ index ∧ index < count) ∧
        positionAt index count = .error (.indexOutside index count)) ∨
      ∃ p : LoopPosition, (p.index : Int) = index ∧ (p.count : Int) = count ∧
        positionAt index count = .ok p := by
  unfold positionAt
  split
  · next hcount => exact .inl ⟨hcount, rfl⟩
  · next hcount =>
    split
    · next hindex =>
      exact .inr (.inr ⟨_, Int.toNat_of_nonneg hindex.1, Int.toNat_of_nonneg (by omega), rfl⟩)
    · next hindex => exact .inr (.inl ⟨by omega, hindex, rfl⟩)

theorem performed (c : Context) (op : Operation) :
    Performed c op (c.respond (.operate op)).1 (c.after (.operate op)) := by
  unfold after
  cases op with
  | push scope =>
    cases scope with
    | value v => exact .pushed v
    | _ => exact .refused (.noValue nofun)
  | pop =>
    cases hpushed : c.pushed with
    | nil =>
      have hrespond : c.respond (.operate .pop) = (.error (.context .rootPopped), c) := by
        simp only [respond, operate, pop, hpushed, Except.mapError, Except.map]
      rw [hrespond]
      exact .refused (.root hpushed)
    | cons v rest =>
      have hrespond : c.respond (.operate .pop) = (.ok (some v), { c with pushed := rest }) := by
        simp only [respond, operate, pop, hpushed, Except.mapError, Except.map]
      rw [hrespond]
      exact .popped hpushed
  | setLoop index count =>
    simp only [respond, operate, setLoop]
    rcases positionAt_cases index count with
      ⟨hcount, hposition⟩ | ⟨hcount, hindex, hposition⟩ | ⟨p, rfl, rfl, hposition⟩
    · rw [hposition]
      exact .refused (.emptyLoop hcount)
    · rw [hposition]
      exact .refused (.indexOutside hcount hindex)
    · rw [hposition]
      exact .placed p
  | setKey key => exact .keyed key
  | clearLoop => exact .cleared

theorem respond_eq_error_iff {op : Operation} {fault : StepFault} :
    (c.respond (.operate op)).1 = .error fault ↔ c.Refuses op fault := by
  have h := c.performed op
  generalize (c.respond (.operate op)).1 = outcome, c.after (.operate op) = c' at h
  constructor
  · intro hfault
    subst hfault
    cases h with
    | refused h => exact h
  · intro hrefuses
    cases hrefuses with
    | root hpushed =>
      cases h with
      | refused h => cases h; rfl
      | popped hpushed' => simp [hpushed] at hpushed'
    | noValue hscope =>
      cases h with
      | refused h => cases h; rfl
      | pushed v => exact absurd rfl (hscope v)
    | emptyLoop hcount =>
      cases h with
      | refused h =>
        cases h with
        | emptyLoop => rfl
        | indexOutside hcount' => omega
      | placed p =>
        have := p.index_lt
        omega
    | indexOutside hcount hindex =>
      cases h with
      | refused h =>
        cases h with
        | emptyLoop hcount' => omega
        | indexOutside => rfl
      | placed p =>
        have := p.index_lt
        omega

/-! ## What steps keep -/

theorem Performed.root {op : Operation} {outcome : Except StepFault (Option Value)}
    (h : Performed c op outcome c') : c'.root = c.root := by
  cases h <;> rfl

theorem root_after (c : Context) (step : Step) : (c.after step).root = c.root := by
  cases step with
  | operate op => exact (c.performed op).root
  | evaluate tree filters locale => rfl

theorem root_run (c : Context) (steps : List Step) : (c.run steps).root = c.root := by
  induction steps generalizing c with
  | nil => rfl
  | cons step steps ih => exact (ih (c.after step)).trans (c.root_after step)

/-- A step that fails leaves the context as it was. -/
theorem after_of_error {step : Step} {fault : StepFault} (h : (c.respond step).1 = .error fault) :
    c.after step = c := by
  cases step with
  | evaluate tree filters locale => rfl
  | operate op =>
    have hperformed := c.performed op
    rw [h] at hperformed
    generalize c.after (.operate op) = c' at hperformed
    cases hperformed
    rfl

/-- A step leaves the pushed scopes alone, adds one or takes the innermost one. -/
theorem pushed_after (c : Context) (step : Step) :
    (c.after step).pushed = c.pushed ∨
      (∃ v, step = .operate (.push (.value v)) ∧ (c.after step).pushed = v :: c.pushed) ∨
      ∃ v, step = .operate .pop ∧ c.pushed = v :: (c.after step).pushed := by
  cases step with
  | evaluate tree filters locale => exact .inl rfl
  | operate op =>
    have h := c.performed op
    generalize (c.respond (.operate op)).1 = outcome, c.after (.operate op) = c' at h
    cases h with
    | refused h => exact .inl rfl
    | pushed v => exact .inr (.inl ⟨v, rfl, rfl⟩)
    | @popped v rest hpushed => exact .inr (.inr ⟨v, rfl, hpushed⟩)
    | placed p => exact .inl rfl
    | keyed key => exact .inl rfl
    | cleared => exact .inl rfl

/-! ## Stretches of steps -/

/-- The depth is never below `floor`, neither before any of the steps nor after the last one. -/
def StaysAbove (floor : Nat) (c : Context) : List Step → Prop
  | [] => floor ≤ c.depth
  | step :: steps => floor ≤ c.depth ∧ StaysAbove floor (c.after step) steps

/-- Steps that pop what they push and nothing else. -/
structure Balanced (c : Context) (steps : List Step) : Prop where
  above : c.StaysAbove c.depth steps
  returns : (c.run steps).depth = c.depth

theorem StaysAbove.append {floor : Nat} {steps more : List Step} (h : c.StaysAbove floor steps)
    (hmore : (c.run steps).StaysAbove floor more) : c.StaysAbove floor (steps ++ more) := by
  induction steps generalizing c with
  | nil => exact hmore
  | cons step steps ih => exact ⟨h.1, ih h.2 hmore⟩

theorem StaysAbove.mono {floor floor' : Nat} {steps : List Step} (h : c.StaysAbove floor steps)
    (hfloor : floor' ≤ floor) : c.StaysAbove floor' steps := by
  induction steps generalizing c with
  | nil => exact hfloor.trans h
  | cons step steps ih => exact ⟨hfloor.trans h.1, ih h.2⟩

/-- One step leaves the scopes alone that are below the depth after it. -/
theorem suffix_after {bottom : List Value} (hbottom : bottom <:+ c.pushed) (step : Step)
    (hdepth : bottom.length < (c.after step).depth) : bottom <:+ (c.after step).pushed := by
  rcases c.pushed_after step with hkept | ⟨v, -, hpush⟩ | ⟨v, -, hpop⟩
  · rwa [hkept]
  · rw [hpush]
    exact hbottom.trans (List.suffix_cons v c.pushed)
  · rw [hpop, List.suffix_cons_iff] at hbottom
    rcases hbottom with rfl | hrest
    · simp [depth] at hdepth
    · exact hrest

/-- A stretch leaves the scopes alone that are below all its depths. -/
theorem StaysAbove.suffix {bottom : List Value} {steps : List Step} (hbottom : bottom <:+ c.pushed)
    (h : c.StaysAbove (bottom.length + 1) steps) : bottom <:+ (c.run steps).pushed := by
  induction steps generalizing c with
  | nil => exact hbottom
  | cons step steps ih =>
    have hdepth : bottom.length < (c.after step).depth := by
      cases steps with
      | nil => exact h.2
      | cons next steps => exact h.2.1
    exact ih (suffix_after hbottom step hdepth) h.2

/-- A balanced stretch restores the scope stack. -/
theorem Balanced.pushed {steps : List Step} (h : c.Balanced steps) :
    (c.run steps).pushed = c.pushed := by
  have hsuffix : c.pushed <:+ (c.run steps).pushed := h.above.suffix (List.suffix_refl _)
  exact (hsuffix.eq_of_length (Nat.succ_injective h.returns).symm).symm

theorem Balanced.nil (c : Context) : c.Balanced [] :=
  ⟨Nat.le_refl _, rfl⟩

theorem Balanced.append {steps more : List Step} (h : c.Balanced steps)
    (hmore : (c.run steps).Balanced more) : c.Balanced (steps ++ more) := by
  refine ⟨h.above.append ?_, ?_⟩
  · have habove := hmore.above
    rwa [h.returns] at habove
  · rw [run_append, hmore.returns, h.returns]

/-- A step that leaves the scopes alone is balanced. -/
theorem Balanced.single {step : Step} (h : (c.after step).pushed = c.pushed) :
    c.Balanced [step] := by
  have hdepth : (c.after step).depth = c.depth := by rw [depth, h, depth]
  exact ⟨⟨Nat.le_refl _, Nat.le_of_eq hdepth.symm⟩, hdepth⟩

/-! ## Pops and their pushes -/

theorem pop_of_pushed {rest : List Value} (h : c.pushed = v :: rest) :
    c.respond (.operate .pop) = (.ok (some v), { c with pushed := rest }) := by
  simp only [respond, operate, pop, h, Except.mapError, Except.map]

theorem pushed_of_pop (h : (c.respond (.operate .pop)).1 = .ok (some v)) :
    ∃ rest, c.pushed = v :: rest := by
  have hperformed := c.performed .pop
  rw [h] at hperformed
  generalize c.after (.operate .pop) = c' at hperformed
  cases hperformed with
  | popped hpushed => exact ⟨_, hpushed⟩

/-- A scope that is pushed is given back by the pop after a balanced stretch. -/
theorem pop_of_balanced {steps : List Step} (h : (c.push v).Balanced steps) :
    ((c.push v).run steps).respond (.operate .pop)
      = (.ok (some v), { (c.push v).run steps with pushed := c.pushed }) :=
  pop_of_pushed h.pushed

/-- A stretch that is balanced between a push and its pop is balanced with them. -/
theorem Balanced.enclosed {steps : List Step} (h : (c.push v).Balanced steps) :
    c.Balanced (.operate (.push (.value v)) :: steps ++ [.operate .pop]) := by
  have hpop : (((c.push v).run steps).after (.operate .pop)).depth = c.depth := by
    rw [after, pop_of_balanced h]
    rfl
  refine ⟨⟨Nat.le_refl _, ?_⟩, ?_⟩
  · have habove : (c.push v).StaysAbove c.depth steps := h.above.mono (Nat.le_succ _)
    refine habove.append ⟨?_, Nat.le_of_eq hpop.symm⟩
    rw [h.returns]
    exact Nat.le_succ _
  · rw [run_append]
    exact hpop

/-- The innermost scope after a run is the one of the last push that no pop has taken back. -/
theorem push_of_pushed {steps : List Step} {rest : List Value} (hc : c.pushed = [])
    (h : (c.run steps).pushed = v :: rest) :
    ∃ before stretch, steps = before ++ .operate (.push (.value v)) :: stretch ∧
      (c.run before).pushed = rest ∧ ((c.run before).push v).Balanced stretch := by
  induction hlength : steps.length using Nat.strong_induction_on generalizing steps v rest with
  | _ n ih =>
  rcases List.eq_nil_or_concat' steps with rfl | ⟨init, step, rfl⟩
  · rw [run, List.foldl_nil, hc] at h
    cases h
  · have hinit : init.length < n := by
      rw [← hlength, List.length_append]
      exact Nat.lt_succ_self _
    have hrun : c.run (init ++ [step]) = (c.run init).after step := c.run_append init [step]
    rw [hrun] at h
    rcases (c.run init).pushed_after step with hkept | ⟨w, rfl, hpush⟩ | ⟨w, rfl, hpop⟩
    · -- A step that leaves the scopes alone is one more of the stretch.
      obtain ⟨before, stretch, rfl, hrest, hbalanced⟩ := ih _ hinit (hkept.symm.trans h) rfl
      rw [run_append] at hkept
      exact ⟨before, stretch ++ [step], by simp, hrest, hbalanced.append (.single hkept)⟩
    · obtain ⟨rfl, rfl⟩ := List.cons.inj (hpush.symm.trans h)
      exact ⟨init, [], rfl, rfl, .nil _⟩
    · -- The pop takes back the push of `w`, and before that push `v` was the innermost scope.
      obtain ⟨before, stretch, rfl, hunder, hbalanced⟩ := ih _ hinit hpop rfl
      have hbefore : before.length < n := by
        rw [List.length_append] at hinit
        omega
      obtain ⟨before', stretch', rfl, hrest, hbalanced'⟩ := ih _ hbefore (hunder.trans h) rfl
      refine ⟨before', stretch' ++ (.operate (.push (.value w)) :: stretch ++ [.operate .pop]),
        by simp, hrest, hbalanced'.append ?_⟩
      rw [run_append] at hbalanced
      exact hbalanced.enclosed

end Context
end ReceiptTemplate
