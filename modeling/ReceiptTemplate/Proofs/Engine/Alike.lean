import ReceiptTemplate.Proofs.Engine.CacheAnswer
import ReceiptTemplate.Property.Basic

/-!
# Alike engines — what the answers of an engine depend on

The cache of an engine changes with every source, and its answers do not depend on it: they follow from
the limits, from what the registry finds by name and from the locale of the call.  The equations here
say what an engine gives in terms of `ExprCache.treeOf`, that is without a cache, and that the engine
after a call is like the one before it.
-/

namespace ReceiptTemplate

/-- Two registries find the same filters. -/
def FilterRegistry.FindsSame (r r' : FilterRegistry) : Prop :=
  ∀ name, r.find? name = r'.find? name

/-- Evaluation asks the registry for names only. -/
theorem Expr.eval_congr {filters filters' : FilterRegistry} (h : filters.FindsSame filters')
    (c : Context) (l : Locale) (e : Expr) : e.eval ⟨c, filters, l⟩ = e.eval ⟨c, filters', l⟩ := by
  induction e with
  | path s => rfl
  | number d => rfl
  | text s => rfl
  | bool b => rfl
  | null => rfl
  | arithmetic op l r ihl ihr => rw [eval, eval, ihl, ihr]
  | negate e ih => rw [eval, eval, ih]
  | not e ih => rw [eval, eval, ih]
  | comparison op l r ihl ihr => rw [eval, eval, ihl, ihr]
  | and l r ihl ihr => rw [eval, eval, ihl, ihr]
  | or l r ihl ihr => rw [eval, eval, ihl, ihr]
  | coalesce l r ihl ihr => rw [eval, eval, ihl, ihr]
  | index target key member iht ihk => rw [eval, eval, iht, ihk]
  | filter call input ih => rw [eval, eval, ih, h]

namespace Engine

variable {e e' e'' : Engine} {override override' : Option String}

/-- Both caches hold what they should, and the engines agree on all that answers depend on. -/
structure Alike (e e' : Engine) : Prop where
  sound : e.cache.Sound
  sound' : e'.cache.Sound
  limits : e.cache.limits = e'.cache.limits
  locale : e.locale = e'.locale
  filters : e.filters.FindsSame e'.filters

theorem Alike.refl (h : e.cache.Sound) : Alike e e :=
  ⟨h, h, rfl, rfl, fun _ => rfl⟩

theorem Alike.trans (h : Alike e e') (h' : Alike e' e'') : Alike e e'' :=
  ⟨h.sound, h'.sound', h.limits.trans h'.limits, h.locale.trans h'.locale,
    fun name => (h.filters name).trans (h'.filters name)⟩

/-- Calls to `e` that name `override` are like calls to `e'` that name `override'`. -/
structure AlikeCalls (e : Engine) (override : Option String) (e' : Engine)
    (override' : Option String) : Prop where
  sound : e.cache.Sound
  sound' : e'.cache.Sound
  limits : e.cache.limits = e'.cache.limits
  locale : e.localeFor override = e'.localeFor override'
  filters : e.filters.FindsSame e'.filters

theorem Alike.calls (h : Alike e e') (override : Option String) :
    AlikeCalls e override e' override := by
  have hlocale : e.localeFor override = e'.localeFor override := by
    unfold localeFor
    rw [h.locale]
  exact ⟨h.sound, h.sound', h.limits, hlocale, h.filters⟩

/-! ## Values -/

theorem AlikeCalls.evaluateTree (h : AlikeCalls e override e' override') (tree : Expr)
    (data : RenderData) :
    e.evaluateTree tree data override = e'.evaluateTree tree data override' := by
  unfold Engine.evaluateTree
  simp only [h.locale, Expr.eval_congr h.filters]

/-- The value of a source is that of its tree, wherever the cache has it from. -/
theorem value_eq (h : e.cache.Sound) (source : String) (data : RenderData)
    (override : Option String) :
    e.value source data override =
      ((ExprCache.treeOf e.cache.limits source).mapError .parse >>= fun tree =>
        e.evaluateTree tree data override) := by
  rw [← (e.cache.asked source).map_tree h, value]
  cases (e.cache.parse source).1 <;> rfl

theorem AlikeCalls.value (h : AlikeCalls e override e' override') (source : String)
    (data : RenderData) : e.value source data override = e'.value source data override' := by
  rw [value_eq h.sound, value_eq h.sound', h.limits]
  simp only [h.evaluateTree]

theorem alike_remember (h : e.cache.Sound) (source : String) : Alike (e.remember source) e :=
  ⟨h.asked (e.cache.asked source), h, (e.cache.asked source).limits, rfl, fun _ => rfl⟩

/-! ## Templates -/

/-- The text of a piece. -/
def textOf (e : Engine) (data : RenderData) (override : Option String) :
    Piece → Except Failure (List Char)
  | .literal cs => .ok cs
  | .expression source => (e.value source data override).map fun v => v.toText.toList

theorem AlikeCalls.textOf (h : AlikeCalls e override e' override') (data : RenderData) :
    e.textOf data override = e'.textOf data override' := by
  funext piece
  cases piece with
  | literal cs => rfl
  | expression source => rw [Engine.textOf, Engine.textOf, h.value]

/-- The pieces of a template are rendered one by one, each as it would be alone. -/
theorem renderPieces_spec (h : e.cache.Sound) (data : RenderData) (override : Option String)
    (pieces : List Piece) :
    (renderPieces data override pieces e).1
        = (pieces.mapM (e.textOf data override)).map List.flatten ∧
      Alike (renderPieces data override pieces e).2 e := by
  induction pieces generalizing e with
  | nil => exact ⟨rfl, .refl h⟩
  | cons piece pieces ih =>
    rw [List.mapM_cons]
    cases piece with
    | literal cs =>
      obtain ⟨hrest, halike⟩ := ih h
      refine ⟨?_, halike⟩
      show (renderPieces data override pieces e).1.map (cs ++ ·) = _
      rw [hrest, Engine.textOf]
      cases pieces.mapM (e.textOf data override) <;> rfl
    | expression source =>
      -- The pieces after it find another cache, which they can not tell from the one before.
      have hremember : Alike (e.remember source) e := alike_remember h source
      obtain ⟨hrest, halike⟩ := ih hremember.sound
      rw [(hremember.calls override).textOf] at hrest
      rw [Engine.textOf]
      unfold renderPieces evaluate
      cases e.value source data override with
      | error failure => exact ⟨rfl, hremember⟩
      | ok v =>
        refine ⟨?_, halike.trans hremember⟩
        show (renderPieces data override pieces (e.remember source)).1.map (v.toText.toList ++ ·) = _
        rw [hrest]
        cases pieces.mapM (e.textOf data override) <;> rfl

/-- The text of a template over a context. -/
def textOfTemplate (e : Engine) (raw : String) (c : Context) (override : Option String) :
    Except Failure String := do
  let texts ← (Template.cut raw.toList).1.mapM (e.textOf (.context c) override)
  match (Template.cut raw.toList).2 with
  | some rest => .error (.parse (Template.unclosed raw rest))
  | none => .ok (String.ofList texts.flatten)

theorem AlikeCalls.textOfTemplate (h : AlikeCalls e override e' override') (raw : String)
    (c : Context) : e.textOfTemplate raw c override = e'.textOfTemplate raw c override' := by
  rw [Engine.textOfTemplate, Engine.textOfTemplate, h.textOf]

theorem render_spec (h : e.cache.Sound) (raw : String) (data : RenderData)
    (override : Option String) :
    (e.render raw data override).1
        = (data.toContext >>= fun c => e.textOfTemplate raw c override) ∧
      Alike (e.render raw data override).2 e := by
  unfold Engine.render
  cases data.toContext with
  | error failure => exact ⟨rfl, .refl h⟩
  | ok c =>
    show _ = e.textOfTemplate raw c override ∧ _
    rw [Engine.textOfTemplate]
    rcases Template.cut raw.toList with ⟨pieces, open?⟩
    obtain ⟨htexts, halike⟩ := renderPieces_spec h (.context c) override pieces
    rcases hrun : renderPieces (.context c) override pieces e with ⟨texts, after⟩
    dsimp only
    rw [hrun] at htexts halike ⊢
    generalize pieces.mapM (e.textOf (.context c) override) = mapped at htexts ⊢
    subst htexts
    -- A piece that fails comes before an opening that is never closed.
    cases mapped with
    | error failure => exact ⟨rfl, halike⟩
    | ok texts => cases open? <;> exact ⟨rfl, halike⟩

/-! ## Properties -/

/-- The property with its text rendered. -/
def resolved (e : Engine) (p : Property) (data : RenderData) (override : Option String) :
    Except Failure Property :=
  data.toContext >>= fun c => p.resolveWith fun raw => e.textOfTemplate raw c override

theorem AlikeCalls.resolved (h : AlikeCalls e override e' override') (p : Property)
    (data : RenderData) : e.resolved p data override = e'.resolved p data override' := by
  unfold Engine.resolved
  simp only [h.textOfTemplate]

theorem resolve_spec (h : e.cache.Sound) (p : Property) (c : Context) (override : Option String) :
    (e.resolve p (.context c) override).1
        = p.resolveWith (fun raw => e.textOfTemplate raw c override) ∧
      Alike (e.resolve p (.context c) override).2 e := by
  unfold Engine.resolve Property.resolveWith
  cases p.state with
  | literal v => exact ⟨rfl, .refl h⟩
  | pending raw => exact ⟨rfl, .refl h⟩
  | expression raw =>
    obtain ⟨htext, halike⟩ := render_spec h raw (.context c) override
    exact ⟨congrArg (Except.map fun text => { p with state := .pending text }) htext, halike⟩

end Engine

/-- The second phase of a property `p` after the first one: the typed value, and the property that is
left. -/
def Property.finish (property : String) (kind : PropertyKind) (locale : Option String)
    (p : Property) : Except Failure Property → Except PropertyFault TypedValue × Property
  | .error failure => (.error (.unresolved failure), p)
  | .ok resolved =>
    match resolved.materialize property kind locale with
    | .error fault => (.error fault, resolved)
    | .ok (v, typed) => (.ok v, typed)

namespace Engine

variable {e : Engine}

theorem resolveProperty_spec (h : e.cache.Sound) (p : Property) (property : String)
    (kind : PropertyKind) (data : RenderData) (override : Option String) :
    ((e.resolveProperty p property kind data override).1,
        (e.resolveProperty p property kind data override).2.1)
        = p.finish property kind override (e.resolved p data override) ∧
      Alike (e.resolveProperty p property kind data override).2.2 e := by
  unfold Engine.resolveProperty Engine.resolved
  cases data.toContext with
  | error failure => exact ⟨rfl, .refl h⟩
  | ok c =>
    obtain ⟨hresolved, halike⟩ := resolve_spec h p c override
    rcases hrun : e.resolve p (.context c) override with ⟨result, after⟩
    rw [hrun] at hresolved halike
    show _ = p.finish property kind override (p.resolveWith _) ∧ _
    dsimp only
    rw [← hresolved, hrun]
    cases result with
    | error failure => exact ⟨rfl, halike⟩
    | ok q =>
      unfold Property.finish
      dsimp only
      cases q.materialize property kind override <;> exact ⟨rfl, halike⟩

/-- The first phase of text with an expression in it renders the text. -/
theorem resolved_ofRaw (hsound : e.cache.Sound) {raw : String}
    (hraw : Template.containsExpression raw = true) (data : RenderData) (override : Option String)
    (shape : Shape) :
    e.resolved (.ofRaw raw shape) data override
      = (e.render raw data override).1.map fun text => ⟨shape, .pending text⟩ := by
  have hstate : Property.ofRaw raw shape = ⟨shape, .expression raw⟩ := by
    rw [Property.ofRaw, if_pos hraw]
  rw [(render_spec hsound raw data override).1, hstate]
  unfold resolved
  cases data.toContext <;> rfl

/-- The second phase reads the text that the first one rendered. -/
theorem resolveProperty_of_rendered (hsound : e.cache.Sound) {raw text : String}
    (hraw : Template.containsExpression raw = true) {data : RenderData} {override : Option String}
    (hrender : (e.render raw data override).1 = .ok text) {l : Option Locale}
    (hlocale : Property.readingLocale override = .ok l) (shape : Shape) (property : String)
    (kind : PropertyKind) :
    (e.resolveProperty (.ofRaw raw shape) property kind data override).1
      = Property.read shape property text l := by
  have hfinish := congrArg Prod.fst
    (resolveProperty_spec hsound (.ofRaw raw shape) property kind data override).1
  refine hfinish.trans ?_
  rw [resolved_ofRaw hsound hraw, hrender]
  show (Property.finish property kind override (.ofRaw raw shape) (.ok ⟨shape, .pending text⟩)).1 = _
  rw [Property.finish, Property.materialize]
  dsimp only
  rw [hlocale]
  cases hread : Property.read shape property text l with
  | error fault =>
    show _ = Except.error fault
    simp [bind, Except.bind, hread]
  | ok v =>
    show _ = Except.ok v
    simp [bind, Except.bind, hread]

/-- Where the first phase fails, so does the property. -/
theorem resolveProperty_of_not_rendered (hsound : e.cache.Sound) {raw : String}
    (hraw : Template.containsExpression raw = true) {data : RenderData} {override : Option String}
    {failure : Failure} (hrender : (e.render raw data override).1 = .error failure) (shape : Shape)
    (property : String) (kind : PropertyKind) :
    (e.resolveProperty (.ofRaw raw shape) property kind data override).1
      = .error (.unresolved failure) := by
  have hfinish := congrArg Prod.fst
    (resolveProperty_spec hsound (.ofRaw raw shape) property kind data override).1
  refine hfinish.trans ?_
  rw [resolved_ofRaw hsound hraw, hrender]
  rfl

end Engine
end ReceiptTemplate
