import ReceiptTemplate.Expr.Evaluate
import ReceiptTemplate.Proofs.Expr.Built
import ReceiptTemplate.Proofs.Expr.ReadBack

/-!
# Evaluation of parsed trees — data never makes it fail

Every path in a parsed tree was split once already, so that it has a value in every context.  The
value of a parsed tree is therefore missing in one case only: a filter that the tree names is not
registered.  Filters of other registries may fail on their own; the result is about registries whose
filters always give a value.
-/

namespace ReceiptTemplate

/-! ## Contexts and registries -/

/-- A path within the limits has a value in every context. -/
theorem Context.resolve_of_split (c : Context) {path : String} {segments : List Segment}
    (h : Path.split path = .ok segments) : ∃ v, c.resolve path = .ok v := by
  unfold Context.resolve
  split
  · exact ⟨_, rfl⟩
  · exact ⟨_, rfl⟩
  · exact ⟨_, rfl⟩
  · exact ⟨c.current.walk segments, by rw [h]; rfl⟩

/-- Every filter gives a value on every input, with all arguments and in every locale. -/
def FilterRegistry.Total (r : FilterRegistry) : Prop :=
  ∀ name f, r.find? name = some f → ∀ v arguments locale, ∃ w, f.apply v arguments locale = .ok w

/-- A computation gives a value, or fails with one of the calls whose filter is not registered. -/
def Settles (env : Surroundings) (calls : List FilterCall) (x : Except EvalFault Value) : Prop :=
  (∃ v, x = .ok v) ∨
    ∃ call ∈ calls, env.filters.find? call.name = none ∧ x = .error (.unknownFilter call.name)

namespace Settles

variable {env : Surroundings} {as bs : List FilterCall} {x : Except EvalFault Value}

theorem ok (v : Value) : Settles env as (.ok v) :=
  .inl ⟨v, rfl⟩

theorem mono (h : Settles env as x) (hsubset : as ⊆ bs) : Settles env bs x := by
  rcases h with hv | ⟨call, hcall, hfind, hx⟩
  · exact .inl hv
  · exact .inr ⟨call, hsubset hcall, hfind, hx⟩

/-- One computation after another fails with the calls of either. -/
theorem bind (h : Settles env as x) {f : Value → Except EvalFault Value}
    (hf : ∀ v, Settles env bs (f v)) : Settles env (as ++ bs) (x >>= f) := by
  rcases h with ⟨v, rfl⟩ | ⟨call, hcall, hfind, rfl⟩
  · exact (hf v).mono (List.subset_append_right as bs)
  · exact .inr ⟨call, List.mem_append_left bs hcall, hfind, rfl⟩

theorem map (h : Settles env as x) (f : Value → Value) :
    Settles env as (x >>= fun v => .ok (f v)) := by
  have hbind : Settles env (as ++ []) (x >>= fun v => .ok (f v)) := h.bind fun v => .ok (f v)
  rwa [List.append_nil] at hbind

end Settles

namespace Expr

/-! ## Paths and filter calls of a tree -/

def paths : Expr → List String
  | .path s => [s]
  | .number _ | .text _ | .bool _ | .null => []
  | .negate e | .not e | .filter _ e => e.paths
  | .arithmetic _ l r | .comparison _ l r | .and l r | .or l r | .coalesce l r | .index l r _ =>
    l.paths ++ r.paths

def calls : Expr → List FilterCall
  | .path _ | .number _ | .text _ | .bool _ | .null => []
  | .negate e | .not e => e.calls
  | .filter call e => call :: e.calls
  | .arithmetic _ l r | .comparison _ l r | .and l r | .or l r | .coalesce l r | .index l r _ =>
    l.calls ++ r.calls

/-- Every path in the tree is within the limits. -/
def PathsSplit (e : Expr) : Prop :=
  ∀ s ∈ e.paths, ∃ segments, Path.split s = .ok segments

theorem PathsSplit.of_append {l r : Expr} {e : Expr} (hpaths : e.paths = l.paths ++ r.paths)
    (hl : l.PathsSplit) (hr : r.PathsSplit) : e.PathsSplit := by
  intro s hs
  rw [hpaths] at hs
  rcases List.mem_append.1 hs with hs | hs
  · exact hl s hs
  · exact hr s hs

theorem pathsSplit_leaf {token : Token} {e : Expr} (h : leaf? token = some e) : e.PathsSplit := by
  intro s hs
  unfold leaf? at h
  split at h <;> cases h <;> cases hs

theorem PathsSplit.member {target : Expr} (h : target.PathsSplit) (s : Segment) :
    (member target s).PathsSplit := by
  cases s with
  | name name => exact .of_append rfl h (by simp [PathsSplit, paths])
  | index n => exact .of_append rfl h (by simp [PathsSplit, paths])

theorem PathsSplit.apply {l r : Expr} (hl : l.PathsSplit) (hr : r.PathsSplit) (op : Infix) :
    (op.apply l r).PathsSplit := by
  cases op with
  | filter => exact hl
  | _ => exact .of_append rfl hl hr

theorem Built.pathsSplit {stage : Stage} {n k : Nat} {e : Expr} (h : Built stage n k e) :
    e.PathsSplit := by
  induction h with
  | @path n s segments hs h =>
    intro s' hs'
    rw [paths, List.mem_singleton] at hs'
    rw [hs']
    exact ⟨segments, h⟩
  | index ht hkey iht ihkey => exact .of_append rfl iht ihkey
  | member s ht ih => exact ih.member s
  | leaf h => exact pathsSplit_leaf h
  | operator op hl hr ihl ihr => exact ihl.apply ihr op
  | group h ih => exact ih
  | negate h ih => exact ih
  | not h ih => exact ih
  | indexed h ih => exact ih
  | filter call h ih => exact ih

/-! ## Evaluation -/

theorem settles_eval {env : Surroundings} (htotal : env.filters.Total) {e : Expr}
    (hpaths : e.PathsSplit) : Settles env e.calls (e.eval env) := by
  have left {l r e : Expr} (he : e.paths = l.paths ++ r.paths) (h : e.PathsSplit) : l.PathsSplit :=
    fun s hs => h s (he ▸ List.mem_append_left _ hs)
  have right {l r e : Expr} (he : e.paths = l.paths ++ r.paths) (h : e.PathsSplit) : r.PathsSplit :=
    fun s hs => h s (he ▸ List.mem_append_right _ hs)
  induction e with
  | path s =>
    -- The parser has split the path before, and splitting does not depend on the context.
    rcases hpaths s (List.mem_singleton.2 rfl) with ⟨segments, hsplit⟩
    rcases env.context.resolve_of_split hsplit with ⟨v, hv⟩
    rw [eval, hv]
    exact .ok v
  | number d => exact .ok _
  | text s => exact .ok _
  | bool b => exact .ok _
  | null => exact .ok _
  | arithmetic op l r ihl ihr =>
    exact (ihl (left rfl hpaths)).bind fun a => (ihr (right rfl hpaths)).map _
  | comparison op l r ihl ihr =>
    exact (ihl (left rfl hpaths)).bind fun a => (ihr (right rfl hpaths)).map _
  | index target key member iht ihk =>
    exact (iht (left rfl hpaths)).bind fun a => (ihk (right rfl hpaths)).map _
  | negate e ih => exact (ih hpaths).map _
  | not e ih => exact (ih hpaths).map _
  | and l r ihl ihr =>
    -- The left value decides, or the right operand gives the value.
    refine (ihl (left rfl hpaths)).bind fun a => ?_
    split
    · exact ihr (right rfl hpaths)
    · exact .ok a
  | or l r ihl ihr =>
    -- As for the conjunction, with the branches exchanged.
    refine (ihl (left rfl hpaths)).bind fun a => ?_
    split
    · exact .ok a
    · exact ihr (right rfl hpaths)
  | coalesce l r ihl ihr =>
    refine (ihl (left rfl hpaths)).bind fun a => ?_
    split
    · exact ihr (right rfl hpaths)
    · exact .ok a
  | filter call input ih =>
    rw [eval]
    cases hfind : env.filters.find? call.name with
    | none => exact .inr ⟨call, List.mem_cons_self, hfind, rfl⟩
    | some f =>
      -- The filter gives a value, so only its input can fail.
      have happly (v : Value) : Settles env [] ((f.apply v (.ofTexts call.argument call.named)
          env.locale).mapError .filter) := by
        rcases htotal call.name f hfind v (.ofTexts call.argument call.named) env.locale with
          ⟨w, hw⟩
        rw [hw]
        exact .ok w
      have hinput := (ih hpaths).bind happly
      rw [List.append_nil] at hinput
      exact hinput.mono (List.subset_cons_self call input.calls)

/-- In every context, every locale and every registry whose filters always give a value, a parsed
tree has a value, or evaluation fails with the name of one of its filters that is not registered. -/
theorem eval_of_parse {limits : Limits} {source : String} {e : Expr} {env : Surroundings}
    (hparse : parse limits source = .ok e) (htotal : env.filters.Total) :
    (∃ v, e.eval env = .ok v) ∨
      ∃ call ∈ e.calls, env.filters.find? call.name = none ∧
        e.eval env = .error (.unknownFilter call.name) := by
  rcases built_of_parse hparse with ⟨n, k, -, hbuilt⟩
  exact settles_eval htotal hbuilt.pathsSplit

/-- A filter that adds a mark to a text is applied to the current scope. -/
theorem eval_of_parse_shout :
    let shout : Filter :=
      ⟨"shout", none, fun v _ _ => .ok (.text (v.toText ++ "!")), fun _ _ _ => []⟩
    let env : Surroundings :=
      ⟨.ofValue (.text "total"), FilterRegistry.empty.register shout, Locale.standard⟩
    let e : Expr := .filter ⟨"shout", none, []⟩ (.path ".")
    (parse .standard e.written = .ok e ∧ env.filters.Total) ∧
      ((∃ v, e.eval env = .ok v) ∨
        ∃ call ∈ e.calls, env.filters.find? call.name = none ∧
          e.eval env = .error (.unknownFilter call.name)) := by
  intro shout env e
  have hprintable : e.Printable := ⟨⟨by decide, by decide⟩, .inl rfl⟩
  have hdepth : e.levels ≤ Limits.standard.depth := by decide
  have hparse : parse .standard e.written = .ok e :=
    parse_of_parseChars (by decide) (parseChars_written hprintable hdepth)
  have htotal : env.filters.Total := by
    intro name f hf v arguments locale
    rw [FilterRegistry.find?_register] at hf
    split at hf
    · cases hf
      exact ⟨_, rfl⟩
    · cases hf
  exact ⟨⟨hparse, htotal⟩, eval_of_parse hparse htotal⟩

end Expr
end ReceiptTemplate
