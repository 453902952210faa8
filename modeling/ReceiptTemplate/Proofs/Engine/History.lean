import ReceiptTemplate.Proofs.Engine.Alike
import ReceiptTemplate.Proofs.Property.Reading

/-!
# History — an engine answers as if it were new

Whatever was asked of an engine before, it answers as a new engine with the same settings and filters
would.  What stays of a request is a change to the cache, which no answer depends on, and a filter that
was registered; the locale that a call names is gone after it.

A call that names a locale is answered as by an engine whose settings name it, except that a property
then reads numbers in the notation of the locale.  An engine reads them in plain notation otherwise,
whatever its settings say.
-/

namespace ReceiptTemplate

/-! ## Reading without a locale -/

namespace Property

variable {p q : Property} {name : String} {l : Locale}

/-- Whether the property holds text that is to be read as a number. -/
def readsNumber (p : Property) : Bool :=
  !p.isMaterialized && p.shape.kind.isNumber

theorem readsNumber_of_resolveWith {ε : Type} {evaluate : String → Except ε String}
    (h : p.resolveWith evaluate = .ok q) : q.readsNumber = p.readsNumber := by
  rcases p with ⟨shape, state⟩
  unfold resolveWith at h
  cases state with
  | literal v => cases h; rfl
  | pending raw => cases h; rfl
  | expression raw =>
    dsimp only at h
    cases htext : evaluate raw with
    | error failure => rw [htext] at h; cases h
    | ok text => rw [htext] at h; cases h; rfl

theorem materialize_of_not_readsNumber (h : p.readsNumber = false)
    (hl : Locale.parse (some name) Locale.standardName = .ok l) (property : String)
    (kind : PropertyKind) :
    p.materialize property kind (some name) = p.materialize property kind none := by
  have hread (hnumber : p.shape.kind.isNumber = false) (raw : String) :
      read p.shape property raw (some l) = read p.shape property raw none := by
    unfold read
    rw [Shape.read_of_not_isNumber hnumber (some l) none raw]
  have hlocale : readingLocale (some name) = .ok (some l) := by
    unfold readingLocale
    dsimp only
    rw [hl]
    rfl
  unfold materialize
  rw [hlocale]
  unfold readsNumber isMaterialized at h
  cases hstate : p.state with
  | literal v => rfl
  | expression raw | pending raw =>
    rw [hstate] at h
    show (read p.shape property raw (some l) >>= _) = (read p.shape property raw none >>= _)
    rw [hread h]

theorem finish_of_not_readsNumber (h : p.readsNumber = false)
    (hl : Locale.parse (some name) Locale.standardName = .ok l) (property : String)
    (kind : PropertyKind) {resolved : Except Failure Property}
    (hresolved : ∀ q, resolved = .ok q → q.readsNumber = p.readsNumber) :
    p.finish property kind (some name) resolved = p.finish property kind none resolved := by
  cases resolved with
  | error failure => rfl
  | ok q =>
    unfold finish
    dsimp only
    rw [materialize_of_not_readsNumber ((hresolved q rfl).trans h) hl]

end Property

namespace Engine

variable {e e' : Engine} {settings : Settings} {filters registry : FilterRegistry}

/-! ## Requests -/

/-- What an engine can be asked. -/
inductive Request where
  | evaluate (source : String) (data : RenderData) (override : Option String)
  | evaluateTree (tree : Expr) (data : RenderData) (override : Option String)
  | parse (source : String)
  | render (raw : String) (data : RenderData) (override : Option String)
  | property (p : Property) (name : String) (kind : PropertyKind) (data : RenderData)
      (override : Option String)
  | clearCache
  | register (f : Filter)

/-- What it answers.  A tree comes without its number. -/
inductive Answer where
  | value (result : Except Failure Value)
  | tree (result : Except ParseError Expr)
  | text (result : Except Failure String)
  /-- The typed value, and the property that is left. -/
  | typed (result : Except PropertyFault TypedValue × Property)
  | done

def respond (e : Engine) : Request → Answer × Engine
  | .evaluate source data override =>
    let (result, e) := e.evaluate source data override
    (.value result, e)
  | .evaluateTree tree data override => (.value (e.evaluateTree tree data override), e)
  | .parse source => (.tree ((e.cache.parse source).1.map (·.tree)), e.remember source)
  | .render raw data override =>
    let (result, e) := e.render raw data override
    (.text result, e)
  | .property p name kind data override =>
    let (result, p, e) := e.resolveProperty p name kind data override
    (.typed (result, p), e)
  | .clearCache => (.done, { e with cache := e.cache.clear })
  | .register f => (.done, e.register f)

def answer (e : Engine) (r : Request) : Answer :=
  (e.respond r).1

/-- The engine after requests. -/
def run (e : Engine) (rs : List Request) : Engine :=
  rs.foldl (fun e r => (e.respond r).2) e

namespace Request

/-- The locale that a request names. -/
def override : Request → Option String
  | .evaluate _ _ override | .evaluateTree _ _ override | .render _ _ override
  | .property _ _ _ _ override => override
  | .parse _ | .clearCache | .register _ => none

/-- The request with another locale, where it can name one. -/
def withOverride (override : Option String) : Request → Request
  | .evaluate source data _ => .evaluate source data override
  | .evaluateTree tree data _ => .evaluateTree tree data override
  | .render raw data _ => .render raw data override
  | .property p name kind data _ => .property p name kind data override
  | r => r

theorem withOverride_override (r : Request) : r.withOverride r.override = r := by
  cases r <;> rfl

/-- Whether a request reads a number from text. -/
def readsNumber : Request → Bool
  | .property p _ _ _ _ => p.readsNumber
  | _ => false

theorem readsNumber_withOverride (override : Option String) (r : Request) :
    (r.withOverride override).readsNumber = r.readsNumber := by
  cases r <;> rfl

/-- The registry after a request. -/
def registering (filters : FilterRegistry) : Request → FilterRegistry
  | .register f => filters.register f
  | _ => filters

theorem registering_withOverride (filters : FilterRegistry) (override : Option String)
    (r : Request) : (r.withOverride override).registering filters = r.registering filters := by
  cases r <;> rfl

end Request

/-- The registry after requests. -/
def registered (filters : FilterRegistry) (rs : List Request) : FilterRegistry :=
  rs.foldl Request.registering filters

theorem registered_map_withOverride (filters : FilterRegistry) (override : Option String)
    (rs : List Request) :
    registered filters (rs.map (·.withOverride override)) = registered filters rs := by
  unfold registered
  rw [List.foldl_map]
  simp only [Request.registering_withOverride]

theorem findsSame_registering (h : filters.FindsSame registry) (r : Request) :
    (r.registering filters).FindsSame (r.registering registry) := by
  intro name
  cases r with
  | register f =>
    rw [Request.registering, Request.registering, FilterRegistry.find?_register,
      FilterRegistry.find?_register, h]
  | _ => exact h name

theorem findsSame_registered (h : filters.FindsSame registry) (rs : List Request) :
    (registered filters rs).FindsSame (registered registry rs) := by
  induction rs generalizing filters registry with
  | nil => exact h
  | cons r rs ih => exact ih (findsSame_registering h r)

/-! ## What a request leaves behind -/

/-- The engine with another registry. -/
def withFilters (filters : FilterRegistry) (e : Engine) : Engine :=
  { e with filters := filters }

theorem alike_respond (h : e.cache.Sound) (r : Request) :
    Alike (e.respond r).2 (e.withFilters (r.registering e.filters)) := by
  cases r with
  | evaluate source data override => exact alike_remember h source
  | evaluateTree tree data override => exact .refl h
  | parse source => exact alike_remember h source
  | render raw data override => exact (render_spec h raw data override).2
  | property p name kind data override => exact (resolveProperty_spec h p name kind data override).2
  | clearCache => exact ⟨ExprCache.sound_clear _, h, rfl, rfl, fun _ => rfl⟩
  | register f => exact ⟨h, h, rfl, rfl, fun _ => rfl⟩

theorem alike_run (h : e.cache.Sound) (rs : List Request) :
    Alike (e.run rs) (e.withFilters (registered e.filters rs)) := by
  induction rs generalizing e with
  | nil => exact .refl h
  | cons r rs ih =>
    have hstep : Alike (e.respond r).2 (e.withFilters (r.registering e.filters)) :=
      alike_respond h r
    -- The rest runs on the engine after `r`, whose registry finds what `e` with `r` registered finds.
    have hrest := ih hstep.sound
    exact ⟨hrest.sound, h, hrest.limits.trans hstep.limits, hrest.locale.trans hstep.locale,
      fun name => (hrest.filters name).trans (findsSame_registered hstep.filters rs name)⟩

/-! ## What a request is answered -/

theorem readsNumber_of_resolved {p q : Property} {data : RenderData} {override : Option String}
    (h : e.resolved p data override = .ok q) : q.readsNumber = p.readsNumber := by
  unfold resolved at h
  cases hcontext : data.toContext with
  | error failure => rw [hcontext] at h; cases h
  | ok c => rw [hcontext] at h; exact Property.readsNumber_of_resolveWith h

theorem answer_property (h : e.cache.Sound) (p : Property) (name : String) (kind : PropertyKind)
    (data : RenderData) (override : Option String) :
    e.answer (.property p name kind data override)
      = .typed (p.finish name kind override (e.resolved p data override)) :=
  congrArg Answer.typed (resolveProperty_spec h p name kind data override).1

/-- Alike calls are answered alike, as long as the second phase of a property is. -/
theorem AlikeCalls.answer {override override' : Option String}
    (h : AlikeCalls e override e' override') (r : Request)
    (hfinish : ∀ p name kind data, r.withOverride none = .property p name kind data none →
      p.finish name kind override (e'.resolved p data override') =
        p.finish name kind override' (e'.resolved p data override')) :
    e.answer (r.withOverride override) = e'.answer (r.withOverride override') := by
  cases r with
  | evaluate source data _ => exact congrArg Answer.value (h.value source data)
  | evaluateTree tree data _ => exact congrArg Answer.value (h.evaluateTree tree data)
  | parse source =>
    refine congrArg Answer.tree ?_
    rw [(e.cache.asked source).map_tree h.sound, (e'.cache.asked source).map_tree h.sound', h.limits]
  | render raw data _ =>
    refine congrArg Answer.text ?_
    calc (e.render raw data override).1
        = data.toContext >>= fun c => e.textOfTemplate raw c override :=
          (render_spec h.sound raw data override).1
      _ = data.toContext >>= fun c => e'.textOfTemplate raw c override' := by
          simp only [h.textOfTemplate]
      _ = (e'.render raw data override').1 := (render_spec h.sound' raw data override').1.symm
  | property p name kind data _ =>
    calc e.answer (.property p name kind data override)
        = .typed (p.finish name kind override (e.resolved p data override)) :=
          answer_property h.sound p name kind data override
      _ = .typed (p.finish name kind override (e'.resolved p data override')) := by
          rw [h.resolved]
      _ = .typed (p.finish name kind override' (e'.resolved p data override')) := by
          rw [hfinish p name kind data rfl]
      _ = e'.answer (.property p name kind data override') :=
          (answer_property h.sound' p name kind data override').symm
  | clearCache => rfl
  | register f => rfl

theorem Alike.answer (h : Alike e e') (r : Request) : e.answer r = e'.answer r := by
  have hanswer := (h.calls r.override).answer r fun _ _ _ _ _ => rfl
  rwa [r.withOverride_override] at hanswer

/-! ## New engines -/

theorem create_eq_ok_iff :
    create settings filters = .ok e ↔
      ∃ l, Locale.parse (some settings.locale) Locale.standardName = .ok l ∧
        e = ⟨settings, l, filters, .empty settings.cacheSize settings.limits⟩ := by
  unfold create
  cases Locale.parse (some settings.locale) Locale.standardName with
  | error fault => exact ⟨nofun, nofun⟩
  | ok l =>
    constructor
    · intro h
      cases h
      exact ⟨l, rfl, rfl⟩
    · rintro ⟨l', hl, rfl⟩
      cases hl
      rfl

theorem sound_create (hcreate : create settings filters = .ok e) : e.cache.Sound := by
  obtain ⟨l, -, rfl⟩ := create_eq_ok_iff.1 hcreate
  exact ExprCache.sound_empty _ _

/-- Requests leave an engine like a new one with the filters that are registered by then. -/
theorem alike_create (hcreate : create settings filters = .ok e) {rs : List Request}
    (hregistry : (registered filters rs).FindsSame registry) :
    ∃ fresh, create settings registry = .ok fresh ∧ Alike (e.run rs) fresh := by
  have hrun := alike_run (sound_create hcreate) rs
  obtain ⟨l, hl, rfl⟩ := create_eq_ok_iff.1 hcreate
  exact ⟨_, create_eq_ok_iff.2 ⟨l, hl, rfl⟩, hrun.sound, ExprCache.sound_empty _ _, hrun.limits,
    hrun.locale, fun name => (hrun.filters name).trans (hregistry name)⟩

/-- A call that names a locale is like a call to an engine whose settings name it. -/
theorem alikeCalls_configured {name : String} {configured : Engine}
    (hcreate : create settings filters = .ok e) {rs : List Request}
    (hregistry : (registered filters rs).FindsSame registry)
    (hconfigured : create { settings with locale := name } registry = .ok configured) :
    AlikeCalls (e.run rs) (some name) configured none := by
  have hrun := alike_run (sound_create hcreate) rs
  obtain ⟨l, -, rfl⟩ := create_eq_ok_iff.1 hcreate
  obtain ⟨l', hl', rfl⟩ := create_eq_ok_iff.1 hconfigured
  have hlocale : (Locale.parse (some name) Locale.standardName).mapError Failure.locale = .ok l' :=
    congrArg (Except.mapError Failure.locale) hl'
  exact ⟨hrun.sound, ExprCache.sound_empty _ _, hrun.limits, hlocale,
    fun name => (hrun.filters name).trans (hregistry name)⟩

/-- After any requests an engine answers as a new engine with the same filters; which locales the
requests named does not matter.  A request that names a locale is answered as by an engine whose
settings name it, but for the notation in which a property reads numbers. -/
theorem answer_of_run (hcreate : create settings filters = .ok e) (rs : List Request)
    (hregistry : (registered filters rs).FindsSame registry) :
    (∃ fresh, create settings registry = .ok fresh ∧ ∀ r, (e.run rs).answer r = fresh.answer r) ∧
    (∀ rs', rs'.map (·.withOverride none) = rs.map (·.withOverride none) →
      ∀ r, (e.run rs').answer r = (e.run rs).answer r) ∧
    ∀ name configured, create { settings with locale := name } registry = .ok configured →
      (∀ r : Request, r.readsNumber = false →
        (e.run rs).answer (r.withOverride (some name))
          = configured.answer (r.withOverride none)) ∧
      ∀ p property kind data,
        (e.run rs).answer (.property p property kind data (some name))
            = .typed (p.finish property kind (some name) (configured.resolved p data none)) ∧
          configured.answer (.property p property kind data none)
            = .typed (p.finish property kind none (configured.resolved p data none)) := by
  refine ⟨?fresh, ?overrides, fun name configured hconfigured => ?configured⟩
  case fresh =>
    obtain ⟨fresh, hfresh, halike⟩ := alike_create hcreate hregistry
    exact ⟨fresh, hfresh, halike.answer⟩
  case overrides =>
    intro rs' hrs r
    have hregistered : registered filters rs' = registered filters rs := by
      rw [← registered_map_withOverride filters none rs', hrs, registered_map_withOverride]
    -- One new engine answers as the engine does after either list of requests.
    obtain ⟨fresh, hfresh, halike⟩ := alike_create hcreate hregistry
    obtain ⟨fresh', hfresh', halike'⟩ := alike_create hcreate (hregistered ▸ hregistry)
    cases hfresh.symm.trans hfresh'
    rw [halike'.answer, halike.answer]
  case configured =>
    have hcalls : AlikeCalls (e.run rs) (some name) configured none :=
      alikeCalls_configured hcreate hregistry hconfigured
    obtain ⟨l, hl, -⟩ := create_eq_ok_iff.1 hconfigured
    refine ⟨fun r hr => hcalls.answer r fun p property kind data hproperty => ?_,
      fun p property kind data => ⟨?_, ?_⟩⟩
    · have hnumber : p.readsNumber = false := by
        rw [← hr, ← r.readsNumber_withOverride none, hproperty]
        rfl
      exact Property.finish_of_not_readsNumber hnumber hl property kind
        fun q hq => readsNumber_of_resolved hq
    · rw [← hcalls.resolved, ← answer_property hcalls.sound]
    · rw [answer_property hcalls.sound']

/-- A German number is read by a call that names German, and not by an engine whose settings do. -/
theorem answer_of_run_german_number :
    ∃ english german, create .standard .standard = .ok english ∧
      create { Settings.standard with locale := "de_DE" } .standard = .ok german ∧
      (english.run [.evaluate "a + 1" (.data .null) (some "pl"), .clearCache]).answer
          (.property (.ofRaw "1,5" ⟨.float, false⟩) "w" .any (.data .null) (some "de_DE"))
        = .typed (.ok (.float (.finite false 6755399441055744 (-52))),
            .ofLiteral (.float (.finite false 6755399441055744 (-52))) ⟨.float, false⟩) ∧
      german.answer (.property (.ofRaw "1,5" ⟨.float, false⟩) "w" .any (.data .null) none)
        = .typed (.error (.mismatch "w" ⟨.float, false⟩ "1,5"), .ofRaw "1,5" ⟨.float, false⟩) := by
  have hcreate : create .standard .standard = .ok ⟨.standard, .standard, .standard, _⟩ := rfl
  obtain ⟨-, -, hconfigured⟩ :=
    answer_of_run hcreate [.evaluate "a + 1" (.data .null) (some "pl"), .clearCache] fun _ => rfl
  obtain ⟨-, hproperty⟩ := hconfigured "de_DE" _ rfl
  obtain ⟨hoverride, hplain⟩ :=
    hproperty (.ofRaw "1,5" ⟨.float, false⟩) "w" .any (.data .null)
  exact ⟨_, _, rfl, rfl, hoverride.trans rfl, hplain.trans rfl⟩

end Engine
end ReceiptTemplate
