import ReceiptTemplate.Proofs.Expr.Evaluation
import ReceiptTemplate.Proofs.Text.DigitKeys

/-!
# What an expression mentions — evaluation reads nothing else

A tree enters the current scope by the first names of its paths, and it reads the loop variables.
`Context.Agree` says that two contexts answer these alike; it says nothing of the other keys of the
current scope, of the outer scopes and of the root.  Two contexts that agree on the names of a tree
give it the same value or the same error, unless the tree reads the current scope as a whole.
-/

namespace ReceiptTemplate

/-! ## First names -/

/-- A segment as the key that it selects in an object. -/
def Segment.key : Segment → String
  | .name s => s
  | .index n => Text.integerText n

namespace Path

def IsLoopVariable (path : String) : Prop :=
  path.toList.head? = some '@'

instance (path : String) : Decidable (IsLoopVariable path) :=
  inferInstanceAs (Decidable (path.toList.head? = some '@'))

/-- The name by which a path enters the current scope.  Loop variables are not read from a scope,
and a path over the limits is not read at all. -/
def firstName? (path : String) : Option String :=
  if IsLoopVariable path then none
  else
    match split path with
    | .ok (s :: _) => some s.key
    | _ => none

/-- The path stands for the current scope itself: `.`, and whatever else is cut into no segment. -/
def IsScope (path : String) : Prop :=
  path ≠ "" ∧ ¬IsLoopVariable path ∧ split path = .ok []

theorem isScope_dot : IsScope "." :=
  ⟨by decide, by decide, split_scope⟩

/-- What starts like a name starts with a segment. -/
theorem splitFrom_ne_nil {cs : List Char} {c : Char} (hc : c ∈ cs.head?)
    (hstart : Token.isNameStart c = true) : splitFrom cs ≠ .ok [] := by
  cases cs with
  | nil => cases hc
  | cons d tail =>
    cases hc
    have hdot : c ≠ '.' := by
      rintro rfl
      exact absurd hstart (by decide)
    have hbracket : c ≠ '[' := by
      rintro rfl
      exact absurd hstart (by decide)
    have hname : isNameChar c = true := by
      simp [isNameChar, hdot, hbracket]
    have hread : (readName? (c :: tail)).isSome = true := by
      simp [readName?, hname]
    rcases Option.isSome_iff_exists.1 hread with ⟨⟨name, rest⟩, hread⟩
    have hsegment : readSegment? (c :: tail) = some (.name name, rest) := by
      unfold readSegment?
      split <;> simp_all
    intro hsplit
    rw [splitFrom] at hsplit
    split at hsplit
    · simp_all
    · cases hrest : splitFrom rest <;> simp_all [Except.map]
    · simp_all

theorem eq_dot_of_isScope {path : String} (htoken : Expr.IsPathToken path) (h : IsScope path) :
    path = "." := by
  rcases h with ⟨-, -, hsplit⟩
  rcases htoken with hdot | ⟨c, hc, hstart⟩
  · exact hdot
  · -- A path that starts like a name is cut into one segment at least.
    unfold split at hsplit
    dsimp only at hsplit
    split at hsplit
    · cases hsplit
    · cases hfrom : splitFrom path.toList with
      | error fault =>
        rw [hfrom] at hsplit
        cases hsplit
      | ok segments =>
        rw [hfrom] at hsplit
        cases hsplit
        exact absurd hfrom (splitFrom_ne_nil hc hstart)

end Path

namespace Expr

/-- The names by which a tree enters the current scope. -/
def firstNames (e : Expr) : List String :=
  e.paths.filterMap Path.firstName?

/-- Whether a tree reads the current scope as a whole. -/
def ReadsScope (e : Expr) : Prop :=
  ∃ s ∈ e.paths, Path.IsScope s

/-- In a tree of the parser every path is one that the lexer has read. -/
theorem Built.isPathToken {stage : Stage} {n k : Nat} {e : Expr} (h : Built stage n k e) :
    ∀ s ∈ e.paths, IsPathToken s := by
  have happend {l r : List String} (hl : ∀ s ∈ l, IsPathToken s) (hr : ∀ s ∈ r, IsPathToken s) :
      ∀ s ∈ l ++ r, IsPathToken s := by
    intro s hs
    rcases List.mem_append.1 hs with hs | hs
    · exact hl s hs
    · exact hr s hs
  induction h with
  | path htoken h =>
    intro s hs
    rw [List.mem_singleton.1 hs]
    exact htoken
  | index ht hkey iht ihkey => exact happend iht ihkey
  | member s ht ih =>
    cases s with
    | name name => exact happend ih (by simp [paths])
    | index n => exact happend ih (by simp [paths])
  | @leaf n e token h =>
    have hpaths : e.paths = [] := by
      unfold leaf? at h
      split at h <;> cases h <;> rfl
    simp [hpaths]
  | operator op hl hr ihl ihr =>
    cases op with
    | filter => exact ihl
    | _ => exact happend ihl ihr
  | group h ih => exact ih
  | negate h ih => exact ih
  | not h ih => exact ih
  | indexed h ih => exact ih
  | filter call h ih => exact ih

theorem readsScope_iff_of_parse {limits : Limits} {source : String} {e : Expr}
    (h : parse limits source = .ok e) : e.ReadsScope ↔ "." ∈ e.paths := by
  rcases built_of_parse h with ⟨n, k, -, hbuilt⟩
  constructor
  · rintro ⟨s, hs, hscope⟩
    rw [← Path.eq_dot_of_isScope (hbuilt.isPathToken s hs) hscope]
    exact hs
  · intro hdot
    exact ⟨".", hdot, Path.isScope_dot⟩

end Expr

/-! ## Contexts that agree -/

/-- What an object answers to a name; a missing property is null. -/
def Value.answer (entries : Entries Value) (name : String) : Value :=
  orNull (property? entries name)

theorem Value.step_object (entries : Entries Value) (s : Segment) :
    step (.object entries) s = answer entries s.key := by
  cases s with
  | name name => rfl
  | index n =>
    rw [Segment.key, answer, property?_integerText]
    rfl

/-- Two contexts over objects that answer the names alike and stand at the same place of a loop. -/
structure Context.Agree (names : List String) (c c' : Context) : Prop where
  scopes : ∃ entries entries', c.current = .object entries ∧ c'.current = .object entries' ∧
    ∀ name ∈ names, Value.answer entries name = Value.answer entries' name
  loopIndex : c.loopIndex = c'.loopIndex
  isFirst : c.isFirst = c'.isFirst
  isLast : c.isLast = c'.isLast
  key : c.key = c'.key

namespace Context.Agree

variable {names : List String} {c c' : Context}

theorem loopVariable (h : c.Agree names c') (name : String) :
    c.loopVariable name = c'.loopVariable name := by
  simp only [Context.loopVariable, h.loopIndex, h.isFirst, h.isLast, h.key]

/-- From the first segment on, both contexts walk the same value. -/
theorem walk (h : c.Agree names c') {s : Segment} (hs : s.key ∈ names) (rest : List Segment) :
    c.current.walk (s :: rest) = c'.current.walk (s :: rest) := by
  rcases h.scopes with ⟨entries, entries', hc, hc', hanswer⟩
  have hstep : c.current.step s = c'.current.step s := by
    calc
      c.current.step s = Value.answer entries s.key := by rw [hc, Value.step_object]
      _ = Value.answer entries' s.key := hanswer s.key hs
      _ = c'.current.step s := by rw [hc', Value.step_object]
  rw [Value.walk, Value.walk, List.foldl_cons, List.foldl_cons, hstep]

theorem resolve (h : c.Agree names c') {path : String} (hscope : ¬Path.IsScope path)
    (hname : ∀ name ∈ Path.firstName? path, name ∈ names) : c.resolve path = c'.resolve path := by
  unfold Context.resolve
  split
  · rfl
  · next hdot =>
    have hpath : path = "." := String.toList_inj.1 hdot
    exact absurd (hpath ▸ Path.isScope_dot) hscope
  · rw [h.loopVariable]
  · next hempty _ hat =>
    have hne : path ≠ "" := by
      rintro rfl
      exact hempty rfl
    have hloop : ¬Path.IsLoopVariable path := by
      intro hloop
      rcases List.head?_eq_some_iff.1 hloop with ⟨tail, htail⟩
      exact hat tail htail
    cases hsplit : Path.split path with
    | error error => rfl
    | ok segments =>
      cases segments with
      | nil => exact absurd ⟨hne, hloop, hsplit⟩ hscope
      | cons s rest =>
        have hkey : s.key ∈ names := hname s.key (by simp [Path.firstName?, hloop, hsplit])
        exact congrArg Except.ok (h.walk hkey rest)

end Context.Agree

/-! ## Evaluation -/

namespace Expr

/-- A context is asked for the paths of a tree and for nothing else. -/
theorem eval_of_resolve {e : Expr} {c c' : Context} (h : ∀ s ∈ e.paths, c.resolve s = c'.resolve s)
    (filters : FilterRegistry) (locale : Locale) :
    e.eval ⟨c, filters, locale⟩ = e.eval ⟨c', filters, locale⟩ := by
  induction e with
  | path s => simp only [eval, h s (List.mem_singleton.2 rfl)]
  | number d => rfl
  | text s => rfl
  | bool b => rfl
  | null => rfl
  | arithmetic _ l r ihl ihr | comparison _ l r ihl ihr | and l r ihl ihr | or l r ihl ihr
  | coalesce l r ihl ihr | index l r _ ihl ihr =>
    -- The right operand is asked alike as well, whether the left one leaves it alone or not.
    have hl := ihl fun s hs => h s (List.mem_append_left _ hs)
    have hr := ihr fun s hs => h s (List.mem_append_right _ hs)
    simp only [eval, hl, hr]
  | negate e ih => simp only [eval, ih h]
  | not e ih => simp only [eval, ih h]
  | filter call input ih => simp only [eval, ih h]

/-- The current scope is read by its names only, and two contexts answer these alike. -/
structure Covered (e : Expr) (c c' : Context) : Prop where
  scope : ¬e.ReadsScope
  agree : c.Agree e.firstNames c'

theorem eval_of_covered {e : Expr} {c c' : Context} (h : e.Covered c c') (filters : FilterRegistry)
    (locale : Locale) : e.eval ⟨c, filters, locale⟩ = e.eval ⟨c', filters, locale⟩ := by
  apply eval_of_resolve
  intro s hs
  refine h.agree.resolve (fun hscope => h.scope ⟨s, hs, hscope⟩) ?_
  intro name hname
  exact List.mem_filterMap.2 ⟨s, hs, hname⟩

/-- Evaluation reads only what the tree mentions: a tree that does not read the current scope as a
whole has the same value or the same error in any two contexts that agree on its first names.  A
parsed tree reads the current scope as a whole exactly if it has the path `.`. -/
theorem eval_of_agree (e : Expr) :
    (∀ limits source, parse limits source = .ok e → (e.ReadsScope ↔ "." ∈ e.paths)) ∧
      (¬e.ReadsScope → ∀ c c', Context.Agree e.firstNames c c' →
        ∀ filters locale, e.eval ⟨c, filters, locale⟩ = e.eval ⟨c', filters, locale⟩) := by
  refine ⟨?_, ?_⟩
  · intro limits source hparse
    exact readsScope_iff_of_parse hparse
  · intro hscope c c' hagree filters locale
    exact eval_of_covered ⟨hscope, hagree⟩ filters locale

/-- The order is found under another spelling, next to other keys and above another root. -/
theorem eval_of_agree_other_spelling :
    let e : Expr := .coalesce (.path "@key") (.path "order")
    let order : Value := .object [("total", .number (.ofNat 3))]
    let c : Context := ⟨.object [("order", order), ("secret", .bool true)], [], none, none⟩
    let c' : Context := ⟨.null, [.object [("ORDER", order)]], none, none⟩
    (¬e.ReadsScope ∧ c.Agree e.firstNames c') ∧
      e.eval ⟨c, .empty, .standard⟩ = e.eval ⟨c', .empty, .standard⟩ := by
  intro e order c c'
  have hsplit : Path.split "order" = .ok [.name "order"] :=
    Path.split_text (t := ⟨"order".toList, by decide, []⟩) ⟨by decide, by simp⟩
  have hscope : ¬e.ReadsScope := by
    rintro ⟨s, hs, hscope⟩
    rcases List.mem_cons.1 hs with rfl | hs
    · exact hscope.2.1 (by decide)
    · rw [List.mem_singleton.1 hs] at hscope
      cases hsplit.symm.trans hscope.2.2
  have hagree : c.Agree e.firstNames c' := by
    refine ⟨⟨_, _, rfl, rfl, ?_⟩, rfl, rfl, rfl, rfl⟩
    intro name hname
    have hnames : e.firstNames = ["order"] := by
      simp [e, firstNames, paths, Path.firstName?, Path.IsLoopVariable, hsplit, Segment.key]
    rw [hnames, List.mem_singleton] at hname
    subst hname
    have hstrip : Text.strip "order" = "order" := by decide
    have hfold : Text.fold "ORDER" = Text.fold "order" := by decide
    simp [Value.answer, Value.property?, Value.findFolded?, Entries.get?, hstrip, hfold]
  exact ⟨⟨hscope, hagree⟩, (eval_of_agree e).2 hscope c c' hagree .empty .standard⟩

end Expr
end ReceiptTemplate
