import ReceiptTemplate.Property.Basic

/-!
# Lifecycle — what calls can do to a property

A property is resolved and materialized any number of times and in any order, with evaluations that may
fail.  `Responded` says once what a single call can do.  From it follows what every run of calls keeps:
the stage moves forward only, a call that fails changes nothing, raw text is evaluated as long as it is
an expression and not after, and a literal stays what it is.
-/

namespace ReceiptTemplate

/-- What an evaluation gives: text, or a value that stands for its text. -/
inductive Evaluated where
  | text (s : String)
  | value (v : Value)

def Evaluated.toText : Evaluated → String
  | .text s => s
  | .value v => v.toText

namespace Property

variable {ε : Type} {p q : Property} {outcome : Except ε Unit}

/-! ## Stages -/

inductive Stage where
  | expression | pending | literal
deriving DecidableEq

def stage (p : Property) : Stage :=
  match p.state with
  | .expression _ => .expression
  | .pending _ => .pending
  | .literal _ => .literal

/-- The ways in which a stage is left. -/
inductive Stage.Moves : Stage → Stage → Prop
  | resolve : Moves .expression .pending
  | materialize : Moves .pending .literal
  | materializeUnresolved : Moves .expression .literal

theorem Stage.Moves.ne_expression {s t : Stage} (h : s.Moves t) : t ≠ .expression := by
  cases h <;> decide

/-! ## Calls -/

inductive Call (ε : Type) where
  | resolve (evaluate : String → Except ε Evaluated)
  | materialize (property : String) (kind : PropertyKind) (locale : Option String)

/-- How a call ends. -/
inductive Outcome (ε : Type) where
  | resolved (result : Except ε Unit)
  | typed (result : Except PropertyFault TypedValue)

def Outcome.IsFailure : Outcome ε → Prop
  | .resolved result => ∃ fault, result = .error fault
  | .typed result => ∃ fault, result = .error fault

/-- How a call ends, and the property after it. -/
def respond (p : Property) : Call ε → Outcome ε × Property
  | .resolve evaluate =>
    match p.resolveWith fun raw => (evaluate raw).map Evaluated.toText with
    | .error fault => (.resolved (.error fault), p)
    | .ok q => (.resolved (.ok ()), q)
  | .materialize property kind locale =>
    match p.materialize property kind locale with
    | .error fault => (.typed (.error fault), p)
    | .ok (v, q) => (.typed (.ok v), q)

/-- The property after a call. -/
def after (p : Property) (call : Call ε) : Property :=
  (p.respond call).2

/-- The property after calls, the first one first. -/
def run (p : Property) (calls : List (Call ε)) : Property :=
  calls.foldl after p

/-- The text on which a call asks for an evaluation, which is the one that comes back from an evaluation
that does nothing but fail with its text. -/
def asks (p : Property) : Call ε → Option String
  | .resolve _ =>
    match p.resolveWith (Except.error : String → Except String String) with
    | .error raw => some raw
    | .ok _ => none
  | .materialize .. => none

/-- The texts on which calls ask for an evaluation, one after the other. -/
def asked (p : Property) : List (Call ε) → List String
  | [] => []
  | call :: calls => (p.asks call).toList ++ (p.after call).asked calls

/-! ## What a call can do -/

/-- Everything that a call can do: how it ends, and the property after it. -/
inductive Responded (p : Property) : Call ε → Outcome ε → Property → Prop
  | evaluated {evaluate : String → Except ε Evaluated} {raw : String} {result : Evaluated}
      (hstate : p.state = .expression raw) (hresult : evaluate raw = .ok result) :
      Responded p (.resolve evaluate) (.resolved (.ok ()))
        { p with state := .pending result.toText }
  | notEvaluated {evaluate : String → Except ε Evaluated} {raw : String} {fault : ε}
      (hstate : p.state = .expression raw) (hfault : evaluate raw = .error fault) :
      Responded p (.resolve evaluate) (.resolved (.error fault)) p
  /-- Only an expression is evaluated. -/
  | skipped {evaluate : String → Except ε Evaluated} (hstage : p.stage ≠ .expression) :
      Responded p (.resolve evaluate) (.resolved (.ok ())) p
  /-- A literal gives its value again. -/
  | kept {property : String} {kind : PropertyKind} {locale : Option String} {v : TypedValue}
      (hstate : p.state = .literal v) :
      Responded p (.materialize property kind locale) (.typed (.ok v)) p
  | read {property : String} {kind : PropertyKind} {locale : Option String} {raw : String}
      {v : TypedValue} (hraw : p.raw? = some raw)
      (hread : readingLocale locale >>= read p.shape property raw = .ok v) :
      Responded p (.materialize property kind locale) (.typed (.ok v))
        { p with state := .literal v }
  | notRead {property : String} {kind : PropertyKind} {locale : Option String} {raw : String}
      {fault : PropertyFault} (hraw : p.raw? = some raw)
      (hfault : readingLocale locale >>= read p.shape property raw = .error fault) :
      Responded p (.materialize property kind locale) (.typed (.error fault)) p

/-- Reading the raw text of a property that is no literal. -/
theorem materialize_of_raw {property raw : String} {kind : PropertyKind} {locale : Option String}
    (hraw : p.raw? = some raw) :
    p.materialize property kind locale
      = (readingLocale locale >>= read p.shape property raw) >>= fun v =>
          .ok (v, { p with state := .literal v }) := by
  rcases p with ⟨shape, state⟩
  cases state with
  | literal v => cases hraw
  | pending raw' =>
    cases hraw
    exact (bind_assoc ..).symm
  | expression raw' =>
    cases hraw
    exact (bind_assoc ..).symm

theorem responded (p : Property) (call : Call ε) :
    Responded p call (p.respond call).1 (p.after call) := by
  unfold after
  cases call with
  | resolve evaluate =>
    cases hstate : p.state with
    | literal v =>
      have hrespond : p.respond (.resolve evaluate) = (.resolved (.ok ()), p) := by
        simp only [respond, resolveWith, hstate]
      rw [hrespond]
      exact .skipped (by simp [stage, hstate])
    | pending raw =>
      have hrespond : p.respond (.resolve evaluate) = (.resolved (.ok ()), p) := by
        simp only [respond, resolveWith, hstate]
      rw [hrespond]
      exact .skipped (by simp [stage, hstate])
    | expression raw =>
      cases hresult : evaluate raw with
      | error fault =>
        have hrespond : p.respond (.resolve evaluate) = (.resolved (.error fault), p) := by
          simp only [respond, resolveWith, hstate, hresult, Except.map]
        rw [hrespond]
        exact .notEvaluated hstate hresult
      | ok result =>
        have hrespond : p.respond (.resolve evaluate)
            = (.resolved (.ok ()), { p with state := .pending result.toText }) := by
          simp only [respond, resolveWith, hstate, hresult, Except.map]
        rw [hrespond]
        exact .evaluated hstate hresult
  | materialize property kind locale =>
    cases hraw : p.raw? with
    | none =>
      obtain ⟨v, hstate⟩ : ∃ v, p.state = .literal v := by
        unfold raw? at hraw
        split at hraw
        · next v hstate => exact ⟨v, hstate⟩
        · cases hraw
        · cases hraw
      have hrespond : p.respond (.materialize (ε := ε) property kind locale)
          = (.typed (.ok v), p) := by
        simp only [respond, materialize, hstate]
      rw [hrespond]
      exact .kept hstate
    | some raw =>
      cases hvalue : readingLocale locale >>= read p.shape property raw with
      | error fault =>
        have hrespond : p.respond (.materialize (ε := ε) property kind locale)
            = (.typed (.error fault), p) := by
          simp only [respond, materialize_of_raw hraw, hvalue]
          rfl
        rw [hrespond]
        exact .notRead hraw hvalue
      | ok v =>
        have hrespond : p.respond (.materialize (ε := ε) property kind locale)
            = (.typed (.ok v), { p with state := .literal v }) := by
          simp only [respond, materialize_of_raw hraw, hvalue]
          rfl
        rw [hrespond]
        exact .read hraw hvalue

/-! ## What a call keeps -/

variable {call : Call ε} {outcome : Outcome ε}

theorem stage_of_raw {raw : String} (h : p.raw? = some raw) :
    p.stage = .expression ∨ p.stage = .pending := by
  unfold raw? at h
  unfold stage
  split at h <;> simp_all

theorem Responded.moves (h : Responded p call outcome q) :
    q.stage = p.stage ∨ p.stage.Moves q.stage := by
  cases h with
  | evaluated hstate hresult =>
    have hstage : p.stage = .expression := by simp only [stage, hstate]
    rw [hstage]
    exact .inr .resolve
  | notEvaluated hstate hfault => exact .inl rfl
  | skipped hstage => exact .inl rfl
  | kept hstate => exact .inl rfl
  | read hraw hread =>
    rcases stage_of_raw hraw with hstage | hstage
    · rw [hstage]
      exact .inr .materializeUnresolved
    · rw [hstage]
      exact .inr .materialize
  | notRead hraw hfault => exact .inl rfl

theorem Responded.eq_of_isFailure (h : Responded p call outcome q) (hfailure : outcome.IsFailure) :
    q = p := by
  cases h with
  | evaluated hstate hresult =>
    rcases hfailure with ⟨fault, hfault⟩
    cases hfault
  | read hraw hread =>
    rcases hfailure with ⟨fault, hfault⟩
    cases hfault
  | notEvaluated hstate hfault => rfl
  | skipped hstage => rfl
  | kept hstate => rfl
  | notRead hraw hfault => rfl

theorem Responded.eq_of_literal (h : Responded p call outcome q) (hstage : p.stage = .literal) :
    q = p := by
  cases h with
  | evaluated hstate hresult => simp [stage, hstate] at hstage
  | read hraw hread =>
    rcases stage_of_raw hraw with hother | hother
    · rw [hstage] at hother
      cases hother
    · rw [hstage] at hother
      cases hother
  | notEvaluated hstate hfault => rfl
  | skipped hstage => rfl
  | kept hstate => rfl
  | notRead hraw hfault => rfl

/-- A stage that is no expression does not become one again. -/
theorem Responded.ne_expression (h : Responded p call outcome q) (hstage : p.stage ≠ .expression) :
    q.stage ≠ .expression := by
  rcases h.moves with hstay | hmove
  · rw [hstay]
    exact hstage
  · exact hmove.ne_expression

/-- As long as a property is an expression its text is the one that it had. -/
theorem Responded.state_eq_of_expression (h : Responded p call outcome q)
    (hstage : q.stage = .expression) : q.state = p.state := by
  cases h with
  | evaluated hstate hresult => cases hstage
  | read hraw hread => cases hstage
  | notEvaluated hstate hfault => rfl
  | skipped hstage => rfl
  | kept hstate => rfl
  | notRead hraw hfault => rfl

/-! ## Views -/

theorem raw?_eq_none_iff (p : Property) : p.raw? = none ↔ p.stage = .literal := by
  unfold raw? stage
  split <;> simp_all

theorem value_eq_ok_iff (p : Property) (v : TypedValue) :
    p.value = .ok v ↔ p.state = .literal v := by
  unfold value
  split <;> simp_all

theorem stage_eq_literal_iff (p : Property) : p.stage = .literal ↔ ∃ v, p.state = .literal v := by
  unfold stage
  split <;> simp_all

theorem value_of_not_literal (h : p.stage ≠ .literal) :
    p.value = .error (.notMaterialized p.stateName) := by
  unfold stage at h
  unfold value
  split <;> simp_all

theorem asks_eq_some {raw : String} (h : p.asks call = some raw) : p.state = .expression raw := by
  cases call with
  | materialize property kind locale => cases h
  | resolve evaluate =>
    unfold asks resolveWith at h
    cases hstate : p.state <;> simp_all [Except.map]

theorem asks_of_ne_expression (h : p.stage ≠ .expression) (call : Call ε) : p.asks call = none := by
  rw [Option.eq_none_iff_forall_ne_some]
  intro raw hraw
  exact h (by simp [stage, asks_eq_some hraw])

/-! ## Runs -/

theorem run_of_literal (h : p.stage = .literal) (calls : List (Call ε)) : p.run calls = p := by
  induction calls with
  | nil => rfl
  | cons call calls ih =>
    have hafter : p.after call = p := (p.responded call).eq_of_literal h
    show (p.after call).run calls = p
    rw [hafter]
    exact ih

theorem asked_of_ne_expression (h : p.stage ≠ .expression) (calls : List (Call ε)) :
    p.asked calls = [] := by
  induction calls generalizing p with
  | nil => rfl
  | cons call calls ih =>
    have hafter : (p.after call).stage ≠ .expression := (p.responded call).ne_expression h
    rw [asked, asks_of_ne_expression h, ih hafter]
    rfl

/-- Whatever is evaluated in a run is the text with which it began. -/
theorem state_of_mem_asked {raw : String} {calls : List (Call ε)} (h : raw ∈ p.asked calls) :
    p.state = .expression raw := by
  induction calls generalizing p with
  | nil => cases h
  | cons call calls ih =>
    rw [asked, List.mem_append] at h
    rcases h with hnow | hlater
    · rw [Option.mem_toList] at hnow
      exact asks_eq_some hnow
    · have hafter : (p.after call).state = .expression raw := ih hlater
      have hstage : (p.after call).stage = .expression := by simp only [stage, hafter]
      rw [← (p.responded call).state_eq_of_expression hstage]
      exact hafter

/-- What calls of any kind and in any order leave of a property.  The next call leaves its stage or
moves it on, and leaves it as it is when it fails.  A literal, and it alone, has a value and no raw text.
Evaluations ask for the text with which the run began, and for none once it is evaluated.  A literal
gives its value in every later call. -/
theorem lifecycle_of_run (p : Property) (calls : List (Call ε)) :
    let q := p.run calls
    (∀ call : Call ε, (q.after call).stage = q.stage ∨ q.stage.Moves (q.after call).stage) ∧
    (q.raw? = none ↔ q.stage = .literal) ∧
    ((∃ v, q.value = .ok v) ↔ q.stage = .literal) ∧
    (q.stage ≠ .literal → q.value = .error (.notMaterialized q.stateName)) ∧
    (∀ call : Call ε, (q.respond call).1.IsFailure → q.after call = q) ∧
    (∀ raw ∈ p.asked calls, p.state = .expression raw) ∧
    (q.stage ≠ .expression → ∀ more : List (Call ε), q.asked more = []) ∧
    (∀ (evaluate : String → Except ε Evaluated) raw result, q.state = .expression raw →
      evaluate raw = .ok result →
        (q.after (.resolve evaluate)).state = .pending result.toText) ∧
    (∀ property kind locale v,
      (q.respond (.materialize (ε := ε) property kind locale)).1 = .typed (.ok v) →
        (q.after (.materialize (ε := ε) property kind locale)).value = .ok v) ∧
    ∀ v, q.value = .ok v → ∀ more : List (Call ε), q.run more = q ∧
      (∀ property kind locale,
        q.respond (.materialize (ε := ε) property kind locale) = (.typed (.ok v), q)) ∧
      ∀ evaluate : String → Except ε Evaluated,
        q.respond (.resolve evaluate) = (.resolved (.ok ()), q) := by
  intro q
  refine ⟨?moves, raw?_eq_none_iff q, ?value, value_of_not_literal, ?failure, ?asked, ?askedLater,
    ?evaluated, ?typed, ?literal⟩
  case moves =>
    intro call
    exact (q.responded call).moves
  case value =>
    rw [stage_eq_literal_iff]
    simp only [value_eq_ok_iff]
  case failure =>
    intro call hfailure
    exact (q.responded call).eq_of_isFailure hfailure
  case asked =>
    intro raw hraw
    exact state_of_mem_asked hraw
  case askedLater =>
    intro hstage more
    exact asked_of_ne_expression hstage more
  case evaluated =>
    intro evaluate raw result hstate hresult
    simp only [after, respond, resolveWith, hstate, hresult, Except.map]
  case typed =>
    intro property kind locale v hvalue
    have hresponded := q.responded (.materialize (ε := ε) property kind locale)
    rw [hvalue] at hresponded
    rw [value_eq_ok_iff]
    generalize q.after (.materialize (ε := ε) property kind locale) = r at hresponded
    cases hresponded with
    | kept hstate => exact hstate
    | read hraw hread => rfl
  case literal =>
    intro v hvalue more
    rw [value_eq_ok_iff] at hvalue
    have hstage : q.stage = .literal := (stage_eq_literal_iff q).2 ⟨v, hvalue⟩
    refine ⟨run_of_literal hstage more, ?_, ?_⟩
    · intro property kind locale
      simp only [respond, materialize, hvalue]
    · intro evaluate
      simp only [respond, resolveWith, hvalue]

end Property
end ReceiptTemplate
