import ReceiptTemplate.Proofs.Engine.EmbeddedSource
import ReceiptTemplate.Proofs.Expr.FilteredPath
import ReceiptTemplate.Proofs.Filter.FixedPlaces
import ReceiptTemplate.Filter.Standard
import ReceiptTemplate.Property.Basic

/-!
# Number sources — a number at a path and a filter that writes it

`x | number:2` and `x | currency` have one tree each, in any limits that are wide enough.  Their values are
what the filters make of the number, so that a template of one of them is the number's text, and where
the filter fails, so does the template, and so does a property with it as its text.
-/

namespace ReceiptTemplate
namespace Engine

open Template (embed)
open ReceiptTemplate.Filter (HasPrecision Rounds fixedPattern halfUp writeNumber)

variable {e : Engine} {name : String} {l : Locale} {data : RenderData} {c : Context} {x : Decimal}
  {source : String}

/-! ## Sources -/

/-- The source that writes `x` with decimal places. -/
def numberSource (places : Nat) : String :=
  "x | number:" ++ Text.integerText places

/-- The source that writes `x` as an amount of money. -/
def currencySource : String :=
  "x | currency"

theorem isName_x : Token.isName ['x'] = true := by
  decide

/-- The path of the number. -/
def numberPath : PathText :=
  ⟨['x'], isName_x, []⟩

section Trees

variable {limits : Expr.Limits} (hlength : 13 ≤ limits.length) (hdepth : 2 ≤ limits.depth)

include hlength hdepth

theorem treeOf_numberSource {places : Nat} (h : places ≤ Filter.maxPlaces) :
    ExprCache.treeOf limits (numberSource places) =
      .ok (.filter ⟨"number", some (String.ofList (Text.digitsOf places)), []⟩ (.path "x")) := by
  have hdigits : ∀ c ∈ Text.digitsOf places, c.isDigit = true :=
    fun c hc => Text.isDigit_of_mem_digitsOf hc
  -- Digits need no quotes around them to be an argument.
  have hword : FilterCall.IsUnquoted (Text.digitsOf places) := by
    refine ⟨Text.digitsOf_ne_nil places, ?_⟩
    intro c hc
    have hdigit := hdigits c hc
    have hblank := Unicode.isBlank_of_isDecimalDigit (Unicode.isDecimalDigit_of_isDigit hdigit)
    have hne : ∀ d : Char, d.isDigit = false → c ≠ d := fun d hd => Text.ne_of_isDigit hdigit hd
    refine ⟨?_, hne _ rfl, hne _ rfl⟩
    simp only [FilterCall.isUnquotedChar, hblank, Bool.not_false, Bool.true_and, Bool.and_eq_true,
      bne_iff_ne]
    exact ⟨⟨hne _ rfl, hne _ rfl⟩, hne _ rfl⟩
  have hname : FilterCall.isValidName "number".toList = true := by decide
  have hcall := FilterCall.read_unquoted hname hword
  have hcount := Filter.length_digitsOf_places (Nat.le_trans h (by decide))
  have hsource : numberSource places
      = String.ofList (numberPath.chars ++ ' ' :: '|' :: ' ' ::
          ("number".toList ++ ':' :: Text.digitsOf places)) := by
    rw [← String.toList_inj]
    simp [numberSource, numberPath, PathText.chars, Text.integerText]
  rw [hsource]
  refine Expr.treeOf_filtered rfl ⟨by decide, by simp [numberPath]⟩ hcall ?_ hdepth
  simp only [numberPath, PathText.chars, List.length_append, List.length_cons, List.flatMap_nil,
    List.length_nil, String.length_toList]
  show 1 + 0 + (6 + ((Text.digitsOf places).length + 1) + 1 + 1 + 1) ≤ limits.length
  omega

theorem treeOf_currencySource :
    ExprCache.treeOf limits currencySource = .ok (.filter ⟨"currency", none, []⟩ (.path "x")) := by
  have hwell : FilterCall.WellNamed ⟨"currency", none, []⟩ := ⟨by decide, by simp⟩
  have hends : FilterCall.EndsCall [] := ⟨by simp [Token.EndsWord], by simp⟩
  have hcall := FilterCall.read_chars hwell hends
  have hsource : currencySource
      = String.ofList (numberPath.chars ++ ' ' :: '|' :: ' ' ::
          (FilterCall.chars ⟨"currency", none, []⟩ ++ [])) := by
    rw [← String.toList_inj]
    rfl
  rw [hsource]
  refine Expr.treeOf_filtered rfl ⟨by decide, by simp [numberPath]⟩ hcall ?_ hdepth
  exact Nat.le_trans (by decide) hlength

end Trees

theorem not_closing_numberSource (places : Nat) :
    ¬Template.closing <:+: (numberSource places).toList := by
  intro hfound
  have hmem : '\x7d' ∈ (numberSource places).toList := hfound.subset List.mem_cons_self
  have hchars : (numberSource places).toList = "x | number:".toList ++ Text.digitsOf places := by
    simp [numberSource, Text.integerText]
  rw [hchars] at hmem
  rcases List.mem_append.1 hmem with hmem | hmem
  · exact absurd hmem (by decide)
  · cases Text.isDigit_of_mem_digitsOf hmem

theorem not_closing_currencySource : ¬Template.closing <:+: currencySource.toList := by
  decide

/-! ## Values -/

/-- The failure of a filter, as an evaluation tells it. -/
def filterFailure (fault : FilterFault) : Failure :=
  .eval (.filter fault)

/-- What a filter makes of the number at a path. -/
theorem value_filtered (hsound : e.cache.Sound)
    (hlocale : Locale.parse (some name) Locale.standardName = .ok l)
    (hdata : data.toContext = .ok c) (hx : c.resolve "x" = .ok (.number x)) {call : FilterCall}
    (htree : ExprCache.treeOf e.cache.limits source = .ok (.filter call (.path "x"))) {f : Filter}
    (hfind : e.filters.find? call.name = some f) :
    e.value source data (some name)
      = (f.apply (.number x) (.ofTexts call.argument call.named) l).mapError filterFailure := by
  have hcall : e.localeFor (some name) = .ok l := by
    rw [localeFor, hlocale]
    rfl
  have heval : Expr.eval ⟨c, e.filters, l⟩ (.filter call (.path "x"))
      = (f.apply (.number x) (.ofTexts call.argument call.named) l).mapError .filter := by
    simp only [Expr.eval, hfind, hx]
    rfl
  have hvalue : e.evaluateTree (.filter call (.path "x")) data (some name)
      = (f.apply (.number x) (.ofTexts call.argument call.named) l).mapError filterFailure := by
    rw [evaluateTree, hcall, hdata]
    show (Expr.eval ⟨c, e.filters, l⟩ (.filter call (.path "x"))).mapError Failure.eval = _
    rw [heval]
    cases f.apply (.number x) (.ofTexts call.argument call.named) l <;> rfl
  rw [value_eq hsound, htree, ← hvalue]
  simp only [Except.mapError, bind, Except.bind]

/-- A source that writes the number `x` in fixed places: no braces in it close a template early, it has a
tree, and its value is what the pattern makes of the number. -/
structure WritesFixed (e : Engine) (source : String) (data : RenderData) (name : String) (l : Locale)
    (places : Nat) (isGrouped : Bool) (x : Decimal) : Prop where
  closing : ¬Template.closing <:+: source.toList
  tree : ∃ tree, ExprCache.treeOf e.cache.limits source = .ok tree
  value : e.value source data (some name)
    = (writeNumber (fixedPattern places isGrouped false) places l x).mapError filterFailure

section Filters

variable (hsound : e.cache.Sound) (hlength : 13 ≤ e.cache.limits.length)
  (hdepth : 2 ≤ e.cache.limits.depth)
  (hlocale : Locale.parse (some name) Locale.standardName = .ok l)
  (hdata : data.toContext = .ok c) (hx : c.resolve "x" = .ok (.number x))

include hsound hlength hdepth hlocale hdata hx

theorem writesFixed_numberSource
    (hnumber : e.filters.find? "number" = FilterRegistry.standard.find? "number") {places : Nat}
    (hplaces : places ≤ Filter.maxPlaces) :
    WritesFixed e (numberSource places) data name l places false x := by
  have htree := treeOf_numberSource hlength hdepth hplaces
  have hfind : ∃ f, FilterRegistry.standard.find? "number" = some f ∧ f.apply = Filter.number :=
    ⟨_, rfl, rfl⟩
  rcases hfind with ⟨f, hf, happly⟩
  refine ⟨not_closing_numberSource places, ⟨_, htree⟩, ?_⟩
  rw [value_filtered hsound hlocale hdata hx htree (hnumber.trans hf), happly]
  exact congrArg (Except.mapError filterFailure) (Filter.number_digitsOf hplaces [])

theorem writesFixed_currencySource
    (hcurrency : e.filters.find? "currency" = FilterRegistry.standard.find? "currency") :
    WritesFixed e currencySource data name l 2 true x := by
  have htree := treeOf_currencySource hlength hdepth
  have hfind : ∃ f, FilterRegistry.standard.find? "currency" = some f ∧ f.apply = Filter.currency :=
    ⟨_, rfl, rfl⟩
  rcases hfind with ⟨f, hf, happly⟩
  refine ⟨not_closing_currencySource, ⟨_, htree⟩, ?_⟩
  rw [value_filtered hsound hlocale hdata hx htree (hcurrency.trans hf), happly]
  rfl

end Filters

/-! ## Templates -/

namespace WritesFixed

variable {places : Nat} {isGrouped : Bool} (hwrites : WritesFixed e source data name l places isGrouped x)
  (hsound : e.cache.Sound) (hdata : data.toContext = .ok c)

include hwrites hsound hdata

/-- A number that is rounded is rendered digit for digit. -/
theorem render (hplaces : places ≤ Text.maxIntegerDigits) (hrounds : Rounds 0 places x) :
    (e.render (embed source) data (some name)).1 = .ok (String.ofList
      ((fixedPattern places isGrouped false).writtenChars l.symbols (halfUp places x))) := by
  rcases hwrites.tree with ⟨tree, htree⟩
  rw [render_embed_eq_map hsound hwrites.closing htree hdata, hwrites.value,
    Filter.writeNumber_eq isGrouped hplaces hrounds]
  rfl

/-- The template of a number that no precision takes fails. -/
theorem render_of_not_hasPrecision (hnone : ¬HasPrecision places x) :
    (e.render (embed source) data (some name)).1
      = .error (filterFailure (.unreadableNumber .boundless)) := by
  rcases hwrites.tree with ⟨tree, htree⟩
  rw [render_embed_eq_map hsound hwrites.closing htree hdata, hwrites.value,
    Filter.writeNumber_of_not_hasPrecision hnone]
  rfl

end WritesFixed

end Engine
end ReceiptTemplate
