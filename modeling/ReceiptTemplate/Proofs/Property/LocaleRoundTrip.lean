import ReceiptTemplate.Proofs.Binary64.Range
import ReceiptTemplate.Proofs.Engine.NumberSources
import ReceiptTemplate.Proofs.Property.Reading

/-!
# Locale round trip — numbers that a filter writes and a property reads

One locale serves both phases of a property, so that a number which a filter wrote in the first phase is
read back in the second.  Without groups that holds of every number of at most twenty-eight digits.  An
amount is written in groups whatever the locale is, and that is read back below ten to the twenty-fifth
only: above that a text of as many digits is still written, but the check of its separators needs one more
digit than the standard precision has.  A locale that writes no groups itself refuses them, so that it
reads no amount from a thousand on.
-/

namespace ReceiptTemplate

/-! ## Reading -/

namespace Property

variable {l : Locale} {property text : String} {isOptional : Bool} {r : Decimal}

section

variable (hblank : Text.isAllBlank text = false) (hstrip : Text.strip text = text)

include hblank hstrip

theorem read_float_of_readNumber (hread : l.readNumber text = .ok (.finite r))
    (hfinite : (Binary64.ofDecimal r).isFinite = true) :
    read ⟨.float, isOptional⟩ property text (some l) = .ok (.float (Binary64.ofDecimal r)) := by
  have hfloat : Shape.floatOf (some (Binary64.ofDecimal r)) = .ok (.float (Binary64.ofDecimal r)) := by
    cases hvalue : Binary64.ofDecimal r with
    | finite negative mantissa exponent => rfl
    | infinite negative =>
      rw [hvalue] at hfinite
      cases hfinite
    | nan => rfl
  have hshape : Shape.read .float (some l) text = .ok (.float (Binary64.ofDecimal r)) := by
    rw [Shape.read, hstrip, Shape.readFloat, hread]
    exact hfloat
  rw [read_of_not_blank hblank, hshape]
  rfl

theorem read_integer_of_readNumber (hread : l.readNumber text = .ok (.finite r))
    (hwhole : r.isWhole = true) :
    read ⟨.integer, isOptional⟩ property text (some l) = .ok (.integer r.whole) := by
  have hinteger : Shape.integerOf (.finite r) = .ok (.integer r.whole) := if_pos hwhole
  have hshape : Shape.read .integer (some l) text = .ok (.integer r.whole) := by
    rw [Shape.read, hstrip, Shape.readInteger, hread]
    exact hinteger
  rw [read_of_not_blank hblank, hshape]
  rfl

/-- How a fault of the reading is told. -/
theorem read_float_of_fault {fault : StrictFault} (hread : l.readNumber text = .error fault) :
    read ⟨.float, isOptional⟩ property text (some l)
      = .error (faultOf property ⟨.float, isOptional⟩ text (Shape.strictFault fault)) := by
  have hshape : Shape.read .float (some l) text = .error (Shape.strictFault fault) := by
    rw [Shape.read, hstrip, Shape.readFloat, hread]
    rfl
  rw [read_of_not_blank hblank, hshape]
  rfl

end

end Property

/-! ## Both phases -/

namespace Engine

open Template (embed)
open ReceiptTemplate.Filter (HasPrecision Rounds fixedPattern halfUp)

variable {e : Engine} {settings : Settings} {filters : FilterRegistry} {name : String} {l : Locale}
  {data : RenderData} {c : Context} {x : Decimal} {source : String}

/-- The second phase reads the text that the first one rendered. -/
theorem resolveProperty_of_render (hsound : e.cache.Sound) {raw text : String}
    (hraw : Template.containsExpression raw = true)
    (hrender : (e.render raw data (some name)).1 = .ok text)
    (hlocale : Locale.parse (some name) Locale.standardName = .ok l)
    (shape : Shape) (property : String) (kind : PropertyKind) :
    (e.resolveProperty (.ofRaw raw shape) property kind data (some name)).1
      = Property.read shape property text (some l) := by
  have hreading : Property.readingLocale (some name) = .ok (some l) := by
    rw [Property.readingLocale, hlocale]
    rfl
  exact resolveProperty_of_rendered hsound hraw hrender hreading shape property kind

/-- What both phases make of a source: the text of the first one, and the number that the second one
reads in it. -/
structure ReadsBack (e : Engine) (source : String) (data : RenderData) (name : String) (l : Locale)
    (text : String) (r : Decimal) : Prop where
  rendered : (e.render (embed source) data (some name)).1 = .ok text
  strict : l.readNumber text = .ok (.finite r)
  float : ∀ property kind isOptional,
    (e.resolveProperty (.ofRaw (embed source) ⟨.float, isOptional⟩) property kind data
      (some name)).1 = .ok (.float (Binary64.ofDecimal r))

/-- A source whose text the first phase writes and the second one does not read. -/
structure IsRefused (e : Engine) (source : String) (data : RenderData) (name : String) (l : Locale)
    (text : String) (fault : StrictFault) : Prop where
  rendered : (e.render (embed source) data (some name)).1 = .ok text
  strict : l.readNumber text = .error fault
  float : ∀ property kind isOptional,
    (e.resolveProperty (.ofRaw (embed source) ⟨.float, isOptional⟩) property kind data
      (some name)).1
      = .error (Property.faultOf property ⟨.float, isOptional⟩ text (Shape.strictFault fault))

/-- A source whose first phase fails, and with it every property. -/
def NotWritten (e : Engine) (source : String) (data : RenderData) (name : String) : Prop :=
  ∀ shape property kind,
    (e.resolveProperty (.ofRaw (embed source) shape) property kind data (some name)).1
      = .error (.unresolved (filterFailure (.unreadableNumber .boundless)))

/-- A number of so few digits that its double is finite. -/
theorem digitCount_lowerTo {places : Nat} {r : Decimal} (hr : -(places : Int) ≤ r.exponent)
    (hcount : r.isZero = true ∨ r.adjusted + places < 28) :
    Decimal.digitCount (r.lowerTo (-places)).coefficient ≤ 50 := by
  have hexponent : (r.lowerTo (-places)).exponent = -(places : Int) := rfl
  have hdefinition : (r.lowerTo (-places)).adjusted = (r.lowerTo (-places)).exponent +
      Decimal.digitCount (r.lowerTo (-places)).coefficient - 1 := rfl
  -- A zero stays a zero at every exponent, and any other number keeps its leading digit.
  cases hzero : r.isZero with
  | true =>
    have hnone : (r.lowerTo (-places)).coefficient = 0 := by
      rw [← Decimal.isZero_iff, Decimal.isZero_lowerTo, hzero]
    rw [hnone]
    decide
  | false =>
    have hadjusted := Decimal.adjusted_lowerTo hzero hr
    rw [hzero] at hcount
    simp only [Bool.false_eq_true, false_or] at hcount
    omega

namespace WritesFixed

variable {places : Nat} {isGrouped : Bool} (hwrites : WritesFixed e source data name l places isGrouped x)
  (hsound : e.cache.Sound) (hlocale : Locale.parse (some name) Locale.standardName = .ok l)
  (hdata : data.toContext = .ok c)

include hwrites hsound hdata

theorem notWritten (hnone : ¬HasPrecision places x) : NotWritten e source data name := by
  intro shape property kind
  exact resolveProperty_of_not_rendered hsound (Template.containsExpression_embed source)
    (hwrites.render_of_not_hasPrecision hsound hdata hnone) shape property kind

variable (hplaces : places ≤ Text.maxIntegerDigits) (hrounds : Rounds 0 places x)

include hlocale hplaces hrounds

/-- The property reads the number as the pattern wrote it. -/
theorem resolveProperty (shape : Shape) (property : String) (kind : PropertyKind) :
    (e.resolveProperty (.ofRaw (embed source) shape) property kind data (some name)).1
      = Property.read shape property (String.ofList
          ((fixedPattern places isGrouped false).writtenChars l.symbols (halfUp places x))) (some l) :=
  resolveProperty_of_render hsound (Template.containsExpression_embed source)
    (hwrites.render hsound hdata hplaces hrounds) hlocale shape property kind

theorem readsBack (hcount : (halfUp places x).isZero = true ∨ (halfUp places x).adjusted + places < 28)
    (hread : l.readNumber (String.ofList
        ((fixedPattern places isGrouped false).writtenChars l.symbols (halfUp places x)))
      = .ok (.finite ((halfUp places x).lowerTo (-places)))) :
    ReadsBack e source data name l (String.ofList
      ((fixedPattern places isGrouped false).writtenChars l.symbols (halfUp places x)))
      ((halfUp places x).lowerTo (-places)) := by
  have hexponent := Filter.le_exponent_halfUp places x
  have hfinite : (Binary64.ofDecimal ((halfUp places x).lowerTo (-places))).isFinite = true := by
    have hlow : ((halfUp places x).lowerTo (-places)).exponent ≤ 0 := by
      show -(places : Int) ≤ 0
      omega
    exact Binary64.isFinite_ofDecimal hlow (digitCount_lowerTo hexponent hcount)
  have hstrip := NumberPattern.strip_writtenChars l.distinct_symbols
    (Filter.isPlain_fixedPattern places isGrouped) hexponent
  refine ⟨hwrites.render hsound hdata hplaces hrounds, hread, ?_⟩
  intro property kind isOptional
  rw [hwrites.resolveProperty hsound hlocale hdata hplaces hrounds]
  exact Property.read_float_of_readNumber hstrip.2 hstrip.1 hread hfinite

theorem isRefused {fault : StrictFault} (hread : l.readNumber (String.ofList
      ((fixedPattern places isGrouped false).writtenChars l.symbols (halfUp places x))) = .error fault) :
    IsRefused e source data name l (String.ofList
      ((fixedPattern places isGrouped false).writtenChars l.symbols (halfUp places x))) fault := by
  have hstrip := NumberPattern.strip_writtenChars l.distinct_symbols
    (Filter.isPlain_fixedPattern places isGrouped) (Filter.le_exponent_halfUp places x)
  refine ⟨hwrites.render hsound hdata hplaces hrounds, hread, ?_⟩
  intro property kind isOptional
  rw [hwrites.resolveProperty hsound hlocale hdata hplaces hrounds]
  exact Property.read_float_of_fault hstrip.2 hstrip.1 hread

end WritesFixed

/-- A rounded number below a power of ten, in terms of its leading digit. -/
theorem abs_roundHalfAway_lt_iff (places k : Nat) (x : Decimal) :
    |roundHalfAway places x.toRat| < 10 ^ k ↔
      (halfUp places x).isZero = true ∨ (halfUp places x).adjusted < k := by
  rw [← Filter.toRat_halfUp, Decimal.abs_toRat_lt_pow_iff]

/-- A number that is small once it is rounded can be rounded. -/
theorem rounds_of_abs_lt {places k : Nat} (h : |roundHalfAway places x.toRat| < 10 ^ k)
    (hk : k ≤ 999999) (hplaces : places ≤ 999999) (hzero : x.isZero = true → HasPrecision places x) :
    Rounds 0 places x := by
  have hmax : Decimal.Limits.standard.emax = 999999 := rfl
  have hrange : Filter.InRange 0 (halfUp places x) := by
    apply ((abs_roundHalfAway_lt_iff places k x).1 h).imp_right
    omega
  exact Filter.rounds_of_inRange hrange hplaces hzero

section Sources

variable (hsound : e.cache.Sound) (hlocale : Locale.parse (some name) Locale.standardName = .ok l)
  (hdata : data.toContext = .ok c)

include hsound hlocale hdata

/-- Text without groups is read back as the rounded number, as a float and without places as an integer. -/
theorem readsBack_number {places : Nat}
    (hwrites : WritesFixed e (numberSource places) data name l places false x)
    (hplaces : places ≤ Filter.maxPlaces) (hbound : |roundHalfAway places x.toRat| < 10 ^ (28 - places))
    (hzero : x.isZero = true → HasPrecision places x) :
    ∃ text, ReadsBack e (numberSource places) data name l text ((halfUp places x).lowerTo (-places)) ∧
      ∀ property isOptional, places = 0 →
        Property.read ⟨.integer, isOptional⟩ property text (some l)
          = .ok (.integer ((halfUp places x).lowerTo (-places)).whole) := by
  have hmost : Filter.maxPlaces = 20 := rfl
  have hdigits : Text.maxIntegerDigits = 4300 := rfl
  have hexponent := Filter.le_exponent_halfUp places x
  have hcount : (halfUp places x).isZero = true ∨ (halfUp places x).adjusted + places < 28 := by
    apply ((abs_roundHalfAway_lt_iff places (28 - places) x).1 hbound).imp_right
    omega
  have hrounds := rounds_of_abs_lt hbound (by omega) (by omega) hzero
  have hread := Filter.readNumber_number (l := l) hplaces hexponent hcount
  have hstrip := NumberPattern.strip_writtenChars l.distinct_symbols
    (Filter.isPlain_fixedPattern places false) hexponent
  refine ⟨_, hwrites.readsBack hsound hlocale hdata (by omega) hrounds hcount hread, ?_⟩
  intro property isOptional hnone
  have hwhole : ((halfUp places x).lowerTo (-places)).isWhole = true := by
    apply Decimal.isWhole_of_nonneg
    show (0 : Int) ≤ -(places : Int)
    omega
  exact Property.read_integer_of_readNumber hstrip.2 hstrip.1 hread hwhole

/-- Grouped text is read back as far as its locale reads such texts, and refused beyond. -/
theorem outcomes_of_currency (hwrites : WritesFixed e currencySource data name l 2 true x)
    (hbound : |roundHalfAway 2 x.toRat| < 10 ^ 26) (hzero : x.isZero = true → HasPrecision 2 x) :
    ∃ text,
      (|roundHalfAway 2 x.toRat| < 10 ^ l.amountDigits →
        ReadsBack e currencySource data name l text ((halfUp 2 x).lowerTo (-2))) ∧
      (10 ^ l.amountDigits ≤ |roundHalfAway 2 x.toRat| →
        IsRefused e currencySource data name l text
          (if |roundHalfAway 2 x.toRat| < 10 ^ (28 - l.decimalPattern.fraction.most) then .malformed
            else .unwritable .imprecise)) := by
  have hdigits : 2 ≤ Text.maxIntegerDigits := by decide
  have hwide := (abs_roundHalfAway_lt_iff 2 26 x).1 hbound
  have hcount : (halfUp 2 x).isZero = true ∨ (halfUp 2 x).adjusted + (2 : Nat) < 28 := by
    apply hwide.imp_right
    omega
  have hrounds := rounds_of_abs_lt hbound (by decide) (by decide) hzero
  have hread := Filter.readNumber_currency (Filter.le_exponent_halfUp 2 x) hwide l
  refine ⟨String.ofList ((fixedPattern 2 true false).writtenChars l.symbols (halfUp 2 x)), ?_, ?_⟩
  · intro hsmall
    rw [if_pos ((abs_roundHalfAway_lt_iff 2 _ x).1 hsmall)] at hread
    exact hwrites.readsBack hsound hlocale hdata hdigits hrounds hcount hread
  · intro hlarge
    -- Such a number is no zero, so that its leading digit alone says how the reading fails.
    have hnot := mt (abs_roundHalfAway_lt_iff 2 _ x).2 (not_lt.2 hlarge)
    have hroom := abs_roundHalfAway_lt_iff 2 (28 - l.decimalPattern.fraction.most) x
    rw [or_iff_right (fun hnone => hnot (.inl hnone))] at hroom
    rw [if_neg hnot, ← apply_ite] at hread
    simp only [hroom]
    exact hwrites.isRefused hsound hlocale hdata hdigits hrounds hread

end Sources

/-- Numbers of at most twenty-eight digits are read back as they were rounded.  Those of `number` are so
with all their places, as floats and, without places, as integers.  Those of `currency` are so up to the
digits before the point for which their locale reads groups, and beyond them they are written and
refused: as malformed while their number has room for the places of the locale's pattern, and with the
check broken off where it has none.  Zeros that no precision takes are not written.

A text with `places` digits after the point has at most twenty-eight digits in all exactly when the
rounded number is below `10 ^ (28 - places)` in magnitude. -/
theorem readsBack_of_run (hcreate : create settings filters = .ok e) (rs : List Request)
    (hnumber : (e.run rs).filters.find? "number" = FilterRegistry.standard.find? "number")
    (hcurrency : (e.run rs).filters.find? "currency" = FilterRegistry.standard.find? "currency")
    (hlength : 13 ≤ settings.limits.length) (hdepth : 2 ≤ settings.limits.depth)
    (hlocale : Locale.parse (some name) Locale.standardName = .ok l)
    (hdata : data.toContext = .ok c) (hx : c.resolve "x" = .ok (.number x)) :
    (∀ places ≤ Filter.maxPlaces,
      (|roundHalfAway places x.toRat| < 10 ^ (28 - places) →
        (x.isZero = true → HasPrecision places x) →
        ∃ text r, ReadsBack (e.run rs) (numberSource places) data name l text r ∧
          r.toRat = roundHalfAway places x.toRat ∧
          (places = 0 → ∃ n : Int, (n : ℚ) = roundHalfAway 0 x.toRat ∧
            ∀ property kind isOptional,
              ((e.run rs).resolveProperty (.ofRaw (embed (numberSource 0)) ⟨.integer, isOptional⟩)
                property kind data (some name)).1 = .ok (.integer n))) ∧
      (¬HasPrecision places x → NotWritten (e.run rs) (numberSource places) data name)) ∧
    (|roundHalfAway 2 x.toRat| < 10 ^ 26 → (x.isZero = true → HasPrecision 2 x) →
      (|roundHalfAway 2 x.toRat| < 10 ^ l.amountDigits →
        ∃ text r, ReadsBack (e.run rs) currencySource data name l text r ∧
          r.toRat = roundHalfAway 2 x.toRat) ∧
      (10 ^ l.amountDigits ≤ |roundHalfAway 2 x.toRat| →
        ∃ text, IsRefused (e.run rs) currencySource data name l text
          (if |roundHalfAway 2 x.toRat| < 10 ^ (28 - l.decimalPattern.fraction.most) then .malformed
            else .unwritable .imprecise))) ∧
    (¬HasPrecision 2 x → NotWritten (e.run rs) currencySource data name) := by
  -- A run leaves the limits as they were and the cache sound; nothing else of it is used.
  have halike := alike_run (sound_create hcreate) rs
  have hlimits : (e.run rs).cache.limits = settings.limits := by
    obtain ⟨locale, -, rfl⟩ := create_eq_ok_iff.1 hcreate
    exact halike.limits
  rw [← hlimits] at hlength hdepth
  have hvalue (places : Nat) : ((halfUp places x).lowerTo (-places)).toRat
      = roundHalfAway places x.toRat := by
    rw [Decimal.toRat_lowerTo (Filter.le_exponent_halfUp places x), Filter.toRat_halfUp]
  have hamount := writesFixed_currencySource halike.sound hlength hdepth hlocale hdata hx hcurrency
  refine ⟨?_, ?_, hamount.notWritten halike.sound hdata⟩
  · intro places hplaces
    have hwrites := writesFixed_numberSource halike.sound hlength hdepth hlocale hdata hx hnumber hplaces
    refine ⟨?_, hwrites.notWritten halike.sound hdata⟩
    intro hbound hzero
    rcases readsBack_number halike.sound hlocale hdata hwrites hplaces hbound hzero with
      ⟨text, hreads, hinteger⟩
    refine ⟨text, _, hreads, hvalue places, ?_⟩
    rintro rfl
    refine ⟨((halfUp 0 x).lowerTo (-(0 : Nat))).whole, ?_, ?_⟩
    · rw [Decimal.whole_of_nonneg (Int.le_refl 0)]
      exact hvalue 0
    · intro property kind isOptional
      rw [resolveProperty_of_render halike.sound (Template.containsExpression_embed _) hreads.rendered
        hlocale]
      exact hinteger property isOptional rfl
  · intro hbound hzero
    rcases outcomes_of_currency halike.sound hlocale hdata hamount hbound hzero with
      ⟨text, hreads, hrefused⟩
    refine ⟨?_, ?_⟩
    · intro hsmall
      exact ⟨text, _, hreads hsmall, hvalue 2⟩
    · intro hlarge
      exact ⟨text, hrefused hlarge⟩

/-- Ten to the twenty-fifth is written in German and not read. -/
theorem readsBack_of_run_twenty_six_digits :
    let x : Decimal := ⟨false, 10 ^ 25, 0⟩
    let data : RenderData := .context ⟨.object [("x", .number x)], [], none, none⟩
    ∃ english, create .standard .standard = .ok english ∧
      (10 ^ 25 ≤ |roundHalfAway 2 x.toRat| ∧ |roundHalfAway 2 x.toRat| < 10 ^ 26) ∧
      ((english.run [.clearCache]).resolveProperty (.ofRaw (embed currencySource) ⟨.float, false⟩)
        "price" .any data (some "de")).1 = .error (.unreadable (.strict (.unwritable .imprecise))) := by
  intro x data
  have hcreate : create .standard .standard = .ok ⟨.standard, .standard, .standard, _⟩ := rfl
  have hlocale : Locale.parse (some "de") Locale.standardName
      = .ok ⟨⟨"de", none, none, none, none⟩⟩ := rfl
  have hsplit : Path.split "x" = .ok [.name "x"] :=
    Path.split_text (t := numberPath) ⟨by decide, by simp [numberPath]⟩
  have hdata : data.toContext = .ok ⟨.object [("x", .number x)], [], none, none⟩ := rfl
  have hresolve : Context.resolve ⟨.object [("x", .number x)], [], none, none⟩ "x"
      = .ok (.number x) := by
    have hstrip : Text.strip "x" = "x" := by decide
    have hwalk : Value.walk (.object [("x", .number x)]) [.name "x"] = .number x := by
      simp [Value.walk, Value.step, Value.property?, Entries.get?, hstrip, Value.orNull]
    show (Path.split "x").map _ = _
    rw [hsplit]
    exact congrArg Except.ok hwalk
  have hrounded : roundHalfAway 2 x.toRat = 10 ^ 25 := by
    rw [← Decimal.toRat_roundPlaces, Decimal.roundPlaces_of_le (by decide)]
    norm_num [Decimal.toRat, x]
  have hbounds : 10 ^ 25 ≤ |roundHalfAway 2 x.toRat| ∧ |roundHalfAway 2 x.toRat| < 10 ^ 26 := by
    rw [hrounded]
    norm_num
  rcases readsBack_of_run hcreate [.clearCache] rfl rfl (by decide) (by decide) hlocale hdata hresolve
    with ⟨-, hamount, -⟩
  obtain ⟨text, hrefused⟩ := (hamount hbounds.2 (by decide)).2 hbounds.1
  -- German has groups, and three places in its pattern.
  have hroom : ¬|roundHalfAway 2 x.toRat| < 10 ^ 25 := not_lt.2 hbounds.1
  have htyped := hrefused.float "price" .any false
  rw [show 28 - (Locale.decimalPattern ⟨⟨"de", none, none, none, none⟩⟩).fraction.most = 25 from rfl,
    if_neg hroom] at htyped
  exact ⟨_, hcreate, hbounds, htyped⟩

end Engine
end ReceiptTemplate
