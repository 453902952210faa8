import ReceiptTemplate.Proofs.Decimal.PlainText
import ReceiptTemplate.Proofs.Engine.EmbeddedSource
import ReceiptTemplate.Proofs.Expr.PathText
import ReceiptTemplate.Proofs.Property.Reading
import ReceiptTemplate.Proofs.Text.IntegerText

/-!
# Whole numbers — from data to integer properties

A number keeps its decimal places in the text that it is rendered as, and an integer property reads digits
only.  A number without decimal places reaches the property as the integer that it is, whatever power of
ten it carries.  One with decimal places is refused with its text, also where they are all zero.
-/

namespace ReceiptTemplate

/-! ## Texts -/

namespace Decimal

variable {d : Decimal}

/-- The text of a number has neither blanks nor anything else but a sign, digits and a point. -/
theorem mem_plain {c : Char} (h : c ∈ d.plain.toList) : c.isDigit = true ∨ c = '-' ∨ c = '.' := by
  have hchars {c : Char} (hc : c ∈ d.plainChars) : c.isDigit = true ∨ c = '.' := by
    by_cases hexponent : 0 ≤ d.exponent
    · rw [plainChars_of_nonneg hexponent] at hc
      exact .inl (Text.isDigit_of_mem_digitsOf hc)
    · exact (point_mem_plainChars (Int.not_le.1 hexponent)).2 c hc
  rw [plain, String.toList_ofList] at h
  split at h
  · rcases List.mem_cons.1 h with rfl | hc
    · exact .inr (.inl rfl)
    · exact (hchars hc).imp_right .inr
  · exact (hchars h).imp_right .inr

theorem plain_toList_ne_nil (d : Decimal) : d.plain.toList ≠ [] := by
  have hchars : d.plainChars ≠ [] := by
    by_cases hexponent : 0 ≤ d.exponent
    · rw [plainChars_of_nonneg hexponent]
      exact Text.digitsOf_ne_nil _
    · exact List.ne_nil_of_mem (point_mem_plainChars (Int.not_le.1 hexponent)).1
  rw [plain, String.toList_ofList]
  split
  · exact List.cons_ne_nil _ _
  · exact hchars

/-- The text of a number has no blanks around it and is not blank. -/
theorem strip_plain (d : Decimal) :
    Text.strip d.plain = d.plain ∧ Text.isAllBlank d.plain = false := by
  have hblank : ∀ c ∈ d.plain.toList, Unicode.isBlank c = false := by
    intro c hc
    rcases mem_plain hc with hdigit | rfl | rfl
    · exact Unicode.isBlank_of_isDecimalDigit (Unicode.isDecimalDigit_of_isDigit hdigit)
    · decide
    · decide
  constructor
  · rw [Text.strip, Text.stripChars, Text.stripWhile_of_forall hblank, String.ofList_toList]
  · obtain ⟨c, cs, hchars⟩ := List.exists_cons_of_ne_nil (plain_toList_ne_nil d)
    have hfirst := hblank c (by rw [hchars]; exact List.mem_cons_self)
    simp [Text.isAllBlank, hchars, hfirst]

end Decimal

/-! ## Reading -/

namespace Shape

variable {x : Decimal} {n : Int}

/-- A number without decimal places is read as the integer that it is, if that has not too many digits. -/
theorem readInteger_plain_of_nonneg (hexponent : 0 ≤ x.exponent) (hn : x.toRat = n)
    (hsize : |n| < 10 ^ Text.maxIntegerDigits) : readInteger none x.plain = .ok (.integer n) := by
  have hdigits : ∀ c ∈ Text.digitsOf (x.coefficientAt 0), c.isDigit = true :=
    fun _ hc => Text.isDigit_of_mem_digitsOf hc
  have hvalue : (if x.isBelowZero then -(x.coefficientAt 0 : Int) else x.coefficientAt 0 : Int) = n := by
    rw [Decimal.toRat_of_nonneg hexponent] at hn
    exact_mod_cast hn
  -- The digits of the magnitude are the digits of the integer, zeros for its power of ten included.
  have hlength : (Text.digitsOf (x.coefficientAt 0)).length ≤ Text.maxIntegerDigits := by
    have hmagnitude : (x.coefficientAt 0 : Int) = |n| := by
      rw [← hvalue]
      split <;> simp
    have hlt : x.coefficientAt 0 < 10 ^ Text.maxIntegerDigits := by exact_mod_cast hmagnitude ▸ hsize
    exact (Decimal.digitCount_le_iff (by decide)).2 hlt
  have hplain : isPlainInteger x.plain.toList = true := by
    rw [Decimal.plain_of_nonneg hexponent, String.toList_ofList, isPlainInteger,
      Text.splitSign_digits _ (Text.digitsOf_ne_nil _) hdigits, Bool.and_eq_true, List.all_eq_true]
    refine ⟨by simpa using Text.digitsOf_ne_nil _, ?_⟩
    intro c hc
    exact Unicode.isDecimalDigit_of_isDigit (hdigits c hc)
  have hread := Text.readInteger?_signed x.isBelowZero (Text.digitsOf_ne_nil _) hdigits hlength
  rw [← Decimal.plain_of_nonneg hexponent, Text.readDigits_digitsOf, hvalue] at hread
  unfold readInteger
  dsimp only
  rw [if_pos hplain, hread]

/-- A number with decimal places has a point in its text, and is no integer in plain notation. -/
theorem readInteger_plain_of_neg (hexponent : x.exponent < 0) :
    readInteger none x.plain = .error .mismatch := by
  have hpoint : '.' ∈ x.plain.toList := by
    have hmem := (Decimal.point_mem_plainChars hexponent).1
    rw [Decimal.plain, String.toList_ofList]
    split
    · exact List.mem_cons_of_mem _ hmem
    · exact hmem
  have hplain : ¬isPlainInteger x.plain.toList = true := by
    intro h
    rw [isPlainInteger, Bool.and_eq_true, List.all_eq_true] at h
    rcases Text.mem_of_mem_splitSign hpoint with hminus | hplus | hdigit
    · cases hminus
    · cases hplus
    · exact absurd (h.2 _ hdigit) (by decide)
  unfold readInteger
  dsimp only
  rw [if_neg hplain]

end Shape

namespace Property

variable {x : Decimal} {n : Int} {isOptional : Bool}

/-- The plain text of a number is read as it is. -/
theorem read_integer_plain (property : String) (x : Decimal) :
    read ⟨.integer, isOptional⟩ property x.plain none =
      (Shape.readInteger none x.plain).mapError (faultOf property ⟨.integer, isOptional⟩ x.plain) := by
  rcases Decimal.strip_plain x with ⟨hstrip, hblank⟩
  rw [read_of_not_blank hblank, Shape.read, hstrip]

end Property

/-! ## Properties of an engine -/

namespace Engine

open Template (embed closing)

variable {e : Engine} {settings : Settings} {filters : FilterRegistry} {data : RenderData} {c : Context}
  {x : Decimal}

section Path

variable {t : PathText} (hpath : Token.ofPathText t.text = .path t.text) (ht : t.InLimits)

include hpath ht

/-- A path is parsed past the cache, whatever the depth. -/
theorem treeOf_pathText {limits : Expr.Limits} (hlength : t.text.length ≤ limits.length) :
    ExprCache.treeOf limits t.text = .ok (.path t.text) := by
  have hsimple := Expr.isSimplePath_pathText hpath
  rw [ExprCache.treeOf, if_pos (by simp [hsimple, hlength]), Expr.parsePath, Expr.ofPath,
    Path.split_text ht]
  rfl

variable (hsound : e.cache.Sound) (hlength : t.text.length ≤ e.cache.limits.length)
  (hdata : data.toContext = .ok c)

include hsound hlength hdata

/-- The value of a path is what stands there in the data. -/
theorem value_pathText {v : Value} (hresolve : c.resolve t.text = .ok v) :
    e.value t.text data none = .ok v := by
  have htree : e.evaluateTree (.path t.text) data none = .ok v := by
    rw [evaluateTree, hdata]
    show ((c.resolve t.text).mapError _).mapError _ = _
    rw [hresolve]
    rfl
  rw [value_eq hsound, treeOf_pathText hpath ht hlength]
  exact htree

variable (hx : c.resolve t.text = .ok (.number x)) (property : String) (kind : PropertyKind)

include hx

/-- A property that embeds a number reads the plain text of the number. -/
theorem resolveProperty_number (shape : Shape) :
    (e.resolveProperty (.ofRaw (embed t.text) shape) property kind data none).1
      = Property.read shape property x.plain none := by
  -- A path has no brace in it that could end the expression before its end.
  have hclosing : ¬closing <:+: t.text.toList := by
    rw [PathText.text, String.toList_ofList]
    exact fun hfound => t.brace_not_mem_chars (hfound.subset List.mem_cons_self)
  have hrender := render_embed hsound hclosing (value_pathText hpath ht hsound hlength hdata hx)
  exact resolveProperty_of_rendered hsound (Template.containsExpression_embed t.text) hrender rfl shape
    property kind

theorem integer_of_nonneg (isOptional : Bool) {n : Int} (hexponent : 0 ≤ x.exponent)
    (hn : x.toRat = n) (hsize : |n| < 10 ^ Text.maxIntegerDigits) :
    (e.resolveProperty (.ofRaw (embed t.text) ⟨.integer, isOptional⟩) property kind data none).1
      = .ok (.integer n) := by
  rw [resolveProperty_number hpath ht hsound hlength hdata hx, Property.read_integer_plain,
    Shape.readInteger_plain_of_nonneg hexponent hn hsize]
  rfl

theorem mismatch_of_neg (isOptional : Bool) (hexponent : x.exponent < 0) :
    (e.resolveProperty (.ofRaw (embed t.text) ⟨.integer, isOptional⟩) property kind data none).1
      = .error (.mismatch property ⟨.integer, isOptional⟩ x.plain) := by
  rw [resolveProperty_number hpath ht hsound hlength hdata hx, Property.read_integer_plain,
    Shape.readInteger_plain_of_neg hexponent]
  rfl

end Path

/-- A number in the data reaches an integer property as the integer that it equals, if it has no decimal
places and that integer not too many digits.  With decimal places its text is refused. -/
theorem integer_of_run (hcreate : create settings filters = .ok e) (rs : List Request) {t : PathText}
    (hpath : Token.ofPathText t.text = .path t.text) (ht : t.InLimits)
    (hlength : t.text.length ≤ settings.limits.length) (hdata : data.toContext = .ok c)
    (hx : c.resolve t.text = .ok (.number x)) {n : Int} (hn : x.toRat = n)
    (hsize : |n| < 10 ^ Text.maxIntegerDigits) (property : String) (kind : PropertyKind)
    (isOptional : Bool) :
    let typed := ((e.run rs).resolveProperty (.ofRaw (embed t.text) ⟨.integer, isOptional⟩) property
      kind data none).1
    (0 ≤ x.exponent → typed = .ok (.integer n)) ∧
      (x.exponent < 0 → typed = .error (.mismatch property ⟨.integer, isOptional⟩ x.plain)) := by
  intro typed
  -- After any requests the engine answers as it did when it was created.
  have halike := alike_run (sound_create hcreate) rs
  have hlimits : (e.run rs).cache.limits = settings.limits := by
    obtain ⟨locale, -, rfl⟩ := create_eq_ok_iff.1 hcreate
    exact halike.limits
  rw [← hlimits] at hlength
  constructor
  · intro hexponent
    exact integer_of_nonneg hpath ht halike.sound hlength hdata hx property kind isOptional hexponent hn
      hsize
  · exact mismatch_of_neg hpath ht halike.sound hlength hdata hx property kind isOptional

/-- Data with a number in it. -/
def numberData (x : Decimal) : Context :=
  ⟨.object [("x", .number x)], [], none, none⟩

/-- The path of that number. -/
def xPath : PathText :=
  ⟨['x'], by decide, []⟩

theorem inLimits_xPath : xPath.InLimits :=
  ⟨by decide, by simp [xPath]⟩

theorem resolve_numberData (x : Decimal) : (numberData x).resolve xPath.text = .ok (.number x) := by
  have hsplit : Path.split xPath.text = .ok [.name "x"] := Path.split_text inLimits_xPath
  have hstrip : Text.strip "x" = "x" := by decide
  have hwalk : Value.walk (.object [("x", .number x)]) [.name "x"] = .number x := by
    simp [Value.walk, Value.step, Value.property?, Entries.get?, hstrip, Value.orNull]
  show (Path.split xPath.text).map _ = _
  rw [hsplit]
  exact congrArg Except.ok hwalk

/-- Six hundred below zero is written out, although it carries a power of ten. -/
theorem integer_of_run_hundreds :
    let x : Decimal := ⟨true, 6, 2⟩
    ∃ english, create .standard .standard = .ok english ∧
      (x.toRat = (-600 : Int) ∧ |(-600 : Int)| < 10 ^ Text.maxIntegerDigits) ∧
      ((english.run [.clearCache]).resolveProperty (.ofRaw (embed xPath.text) ⟨.integer, false⟩) "width"
        .any (.context (numberData x)) none).1 = .ok (.integer (-600)) := by
  intro x
  have hcreate : create .standard .standard = .ok ⟨.standard, .standard, .standard, _⟩ := rfl
  have hvalue : x.toRat = (-600 : Int) := by norm_num [Decimal.toRat, x]
  have hsize : |(-600 : Int)| < 10 ^ Text.maxIntegerDigits :=
    lt_of_lt_of_le (b := 10 ^ 3) (by decide) (pow_le_pow_right₀ (by decide) (by decide))
  have hdata : (RenderData.context (numberData x)).toContext = .ok (numberData x) := rfl
  have htyped := integer_of_run hcreate [.clearCache] rfl inLimits_xPath (by decide) hdata
    (resolve_numberData x) hvalue hsize "width" .any false
  exact ⟨_, hcreate, ⟨hvalue, hsize⟩, htyped.1 (by decide)⟩

/-- Six and six with one decimal place are the same number, and only one of them is read as six. -/
theorem not_integer_of_equal_numbers :
    let x : Decimal := ⟨false, 6, 0⟩
    let y : Decimal := ⟨false, 60, -1⟩
    x.same y = true ∧ y.toRat = (6 : Int) ∧
      ∃ english, create .standard .standard = .ok english ∧
        (english.resolveProperty (.ofRaw (embed xPath.text) ⟨.integer, false⟩) "width" .any
          (.context (numberData x)) none).1 = .ok (.integer 6) ∧
        (english.resolveProperty (.ofRaw (embed xPath.text) ⟨.integer, false⟩) "width" .any
          (.context (numberData y)) none).1
          = .error (.mismatch "width" ⟨.integer, false⟩ "6.0") := by
  intro x y
  have hcreate : create .standard .standard = .ok ⟨.standard, .standard, .standard, _⟩ := rfl
  have hx : x.toRat = (6 : Int) := by norm_num [Decimal.toRat, x]
  have hy : y.toRat = (6 : Int) := by norm_num [Decimal.toRat, y]
  have hsize : |(6 : Int)| < 10 ^ Text.maxIntegerDigits :=
    lt_of_lt_of_le (b := 10 ^ 1) (by decide) (pow_le_pow_right₀ (by decide) (by decide))
  have hsound := sound_create hcreate
  have htext : y.plain = "6.0" := by decide
  have hdata (z : Decimal) : (RenderData.context (numberData z)).toContext = .ok (numberData z) := rfl
  refine ⟨by decide, hy, _, hcreate, ?_, ?_⟩
  · exact integer_of_nonneg rfl inLimits_xPath hsound (by decide) (hdata x) (resolve_numberData x) "width"
      .any false (by decide) hx hsize
  · rw [← htext]
    exact mismatch_of_neg rfl inLimits_xPath hsound (by decide) (hdata y) (resolve_numberData y) "width"
      .any false (by decide)

end Engine
end ReceiptTemplate
