import ReceiptTemplate.Engine.Cache
import ReceiptTemplate.Engine.Settings
import ReceiptTemplate.Engine.Template
import ReceiptTemplate.Expr.Evaluate
import ReceiptTemplate.Filter.Standard

/-!
# Engine — expressions and templates over render data

An engine has a default locale, a registry of filters and a cache of trees.  Evaluating a source changes
nothing but the cache.  A call can name a locale of its own.  Errors come in a fixed order: the source
is parsed first, then the locale is looked up and then plain data is converted.
-/

namespace ReceiptTemplate

/-- What expressions are evaluated against: a context, or data from which one is made. -/
inductive RenderData where
  | context (c : Context)
  | data (d : Datum)

/-- Why a request to an engine fails. -/
inductive Failure where
  | parse (error : ParseError)
  | locale (fault : LocaleFault)
  | data (fault : DataFault)
  | eval (fault : EvalFault)

def RenderData.toContext : RenderData → Except Failure Context
  | .context c => .ok c
  | .data d => (Context.ofDatum d).mapError .data

structure Engine where
  settings : Settings
  locale : Locale
  filters : FilterRegistry
  cache : ExprCache

namespace Engine

/-- A new engine with an empty cache. -/
def create (settings : Settings) (filters : FilterRegistry) : Except LocaleFault Engine :=
  (Locale.parse (some settings.locale) Locale.standardName).map fun l =>
    ⟨settings, l, filters, .empty settings.cacheSize settings.limits⟩

/-- The engine with one more filter. -/
def register (f : Filter) (e : Engine) : Engine :=
  { e with filters := e.filters.register f }

/-! ## Expressions -/

/-- The locale of a call. -/
def localeFor (e : Engine) (override : Option String) : Except Failure Locale :=
  match override with
  | none => .ok e.locale
  | some name => (Locale.parse (some name) Locale.standardName).mapError .locale

/-- The value of a tree. -/
def evaluateTree (e : Engine) (tree : Expr) (data : RenderData) (override : Option String) :
    Except Failure Value := do
  let l ← e.localeFor override
  let c ← data.toContext
  (tree.eval ⟨c, e.filters, l⟩).mapError .eval

/-- The engine with the cache after a source was asked for. -/
def remember (e : Engine) (source : String) : Engine :=
  { e with cache := (e.cache.parse source).2 }

/-- The value of a source, without the change to the cache. -/
def value (e : Engine) (source : String) (data : RenderData) (override : Option String) :
    Except Failure Value :=
  match (e.cache.parse source).1 with
  | .error error => .error (.parse error)
  | .ok t => e.evaluateTree t.tree data override

/-- The value of a source and the engine after it. -/
def evaluate (e : Engine) (source : String) (data : RenderData) (override : Option String) :
    Except Failure Value × Engine :=
  (e.value source data override, e.remember source)

/-! ## Templates -/

/-- The texts of the pieces one after the other; the first failure ends it. -/
def renderPieces (data : RenderData) (override : Option String) :
    List Piece → Engine → Except Failure (List Char) × Engine
  | [], e => (.ok [], e)
  | .literal cs :: pieces, e =>
    let (rest, e) := renderPieces data override pieces e
    (rest.map (cs ++ ·), e)
  | .expression source :: pieces, e =>
    match e.evaluate source data override with
    | (.error failure, e) => (.error failure, e)
    | (.ok v, e) =>
      let (rest, e) := renderPieces data override pieces e
      (rest.map (v.toText.toList ++ ·), e)

/-- The template with every expression replaced by the text of its value.  Data is converted before
anything else, and an opening that is never closed is reported last. -/
def render (e : Engine) (raw : String) (data : RenderData) (override : Option String) :
    Except Failure String × Engine :=
  match data.toContext with
  | .error failure => (.error failure, e)
  | .ok c =>
    let (pieces, open?) := Template.cut raw.toList
    match renderPieces (.context c) override pieces e, open? with
    | (.error failure, e), _ => (.error failure, e)
    | (.ok _, e), some rest => (.error (.parse (Template.unclosed raw rest)), e)
    | (.ok cs, e), none => (.ok (String.ofList cs), e)

end Engine

/-- The value of a source without an engine: data is converted before the locale is looked up. -/
def Expr.evaluateOnce (source : String) (data : RenderData) (filters : FilterRegistry)
    (locale : Option String) : Except Failure Value := do
  let tree ← (Expr.parse .standard source).mapError .parse
  let c ← data.toContext
  let l ← (Locale.parse locale Locale.standardName).mapError .locale
  (tree.eval ⟨c, filters, l⟩).mapError .eval

end ReceiptTemplate
