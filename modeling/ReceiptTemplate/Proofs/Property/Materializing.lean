import ReceiptTemplate.Proofs.Number.ProperText
import ReceiptTemplate.Proofs.Property.Lifecycle
import ReceiptTemplate.Proofs.Property.Reading

/-!
# Materializing — which texts have no typed value, and how that is told

A text that is not of the shape is refused with a fault that names the property and carries the text.
Reading in the notation of a locale can break off before that is settled: the separators can not always
be checked, and an infinite or a signaling value is asked whether it is an integer.
-/

namespace ReceiptTemplate

/-! ## Shapes -/

namespace Shape

open NumberPattern (reading? Uncheckable)

variable {l : Locale} {text raw : String}

/-- Why a text is not read to the end in the notation of a locale. -/
inductive Unreadable (l : Locale) : ShapeKind → String → Prop
  | integerSeparators {text : String} (hgroup : l.symbols.group ∈ text.toList)
      (hcheck : Uncheckable l.decimalPattern l.symbols text) : Unreadable l .integer text
  | floatSeparators {text : String} (hgroup : l.symbols.group ∈ text.toList)
      (hcheck : Uncheckable l.decimalPattern l.symbols text) : Unreadable l .float text
  | infinite {text : String} {negative : Bool} (hgroup : l.symbols.group ∉ text.toList)
      (hread : reading? l.symbols text = some (.infinite negative)) : Unreadable l .integer text
  | signaling {text : String} {negative : Bool} {payload : List Char}
      (hgroup : l.symbols.group ∉ text.toList)
      (hread : reading? l.symbols text = some (.nan negative true payload)) : Unreadable l .integer text

/-- A malformed number is a mismatch, and other faults stay what they are. -/
theorem breaksOff_mapError_strictFault {α : Type} {x : Except StrictFault α} :
    BreaksOff .mismatch (x.mapError strictFault) ↔ BreaksOff .malformed x := by
  cases x with
  | ok a =>
    show BreaksOff _ (.ok a : Except ShapeFault α) ↔ _
    simp
  | error fault =>
    show BreaksOff _ (.error (strictFault fault) : Except ShapeFault α) ↔ _
    cases fault <;> simp [strictFault]

theorem breaksOff_integerOf_iff {r : Decimal.Reading} :
    BreaksOff .mismatch (integerOf r) ↔
      (∃ negative, r = .infinite negative) ∨ ∃ negative payload, r = .nan negative true payload := by
  cases r with
  | finite d => cases hwhole : d.isWhole <;> simp [integerOf, hwhole]
  | infinite negative => simp [integerOf]
  | nan negative signaling payload => cases signaling <;> simp [integerOf]

theorem not_breaksOff_floatOf (x : Option Binary64) : ¬BreaksOff .mismatch (floatOf x) := by
  unfold floatOf
  split <;> simp

/-- Values that are no numbers are read only where there are no separators, quiet ones apart. -/
theorem readNumber_special_iff {r : Decimal.Reading}
    (hspecial : (∃ negative, r = .infinite negative) ∨ ∃ negative payload, r = .nan negative true payload) :
    l.readNumber text = .ok r ↔ reading? l.symbols text = some r ∧ l.symbols.group ∉ text.toList := by
  -- A text with separators is compared with the text of a finite number, so that it is never proper.
  have hproper : l.decimalPattern.isProper l.symbols text r ≠ .ok true := by
    rcases hspecial with ⟨negative, rfl⟩ | ⟨negative, payload, rfl⟩ <;> simp [NumberPattern.isProper]
  rw [Locale.readNumber, NumberPattern.readStrict_eq_ok_iff]
  apply and_congr_right
  intro hread
  exact ⟨fun hchecked hgroup => hproper (hchecked hgroup), fun hgroup hmem => absurd hmem hgroup⟩

theorem breaksOff_readNumber_iff :
    BreaksOff .malformed (l.readNumber text) ↔
      l.symbols.group ∈ text.toList ∧ Uncheckable l.decimalPattern l.symbols text :=
  NumberPattern.breaksOff_readStrict_iff l.isDecimal_decimalPattern

theorem breaksOff_readInteger_iff :
    BreaksOff .mismatch (readInteger (some l) text) ↔ Unreadable l .integer text := by
  have hmap {r : Decimal.Reading} :
      (l.readNumber text).mapError strictFault = .ok r ↔ l.readNumber text = .ok r := by
    cases l.readNumber text <;> simp [Except.mapError]
  unfold readInteger
  dsimp only
  rw [breaksOff_bind, breaksOff_mapError_strictFault, breaksOff_readNumber_iff]
  simp only [hmap, breaksOff_integerOf_iff]
  constructor
  · rintro (⟨hgroup, hcheck⟩ | ⟨r, hread, hspecial⟩)
    · exact .integerSeparators hgroup hcheck
    · -- Whatever is no finite number came past the check, as its text has no separators.
      rw [readNumber_special_iff hspecial] at hread
      rcases hspecial with ⟨negative, rfl⟩ | ⟨negative, payload, rfl⟩
      · exact .infinite hread.2 hread.1
      · exact .signaling hread.2 hread.1
  · intro hbreak
    cases hbreak with
    | integerSeparators hgroup hcheck => exact .inl ⟨hgroup, hcheck⟩
    | infinite hgroup hread =>
      exact .inr ⟨_, (readNumber_special_iff (.inl ⟨_, rfl⟩)).2 ⟨hread, hgroup⟩, .inl ⟨_, rfl⟩⟩
    | signaling hgroup hread =>
      exact .inr ⟨_, (readNumber_special_iff (.inr ⟨_, _, rfl⟩)).2 ⟨hread, hgroup⟩, .inr ⟨_, _, rfl⟩⟩

theorem breaksOff_readFloat_iff :
    BreaksOff .mismatch (readFloat (some l) text) ↔ Unreadable l .float text := by
  unfold readFloat
  dsimp only
  rw [breaksOff_bind, breaksOff_mapError_strictFault, breaksOff_readNumber_iff]
  constructor
  · rintro (⟨hgroup, hcheck⟩ | ⟨r, -, hbreak⟩)
    · exact .floatSeparators hgroup hcheck
    · exact absurd hbreak (not_breaksOff_floatOf _)
  · intro hbreak
    cases hbreak with
    | floatSeparators hgroup hcheck => exact .inl ⟨hgroup, hcheck⟩

/-- Truth values and members are compared with the text, so that nothing can break off. -/
theorem not_breaksOff_read_of_not_isNumber {kind : ShapeKind} (h : kind.isNumber = false)
    (locale : Option Locale) (raw : String) : ¬BreaksOff .mismatch (read kind locale raw) := by
  cases kind with
  | integer | float => cases h
  | text => simp [read]
  | boolean =>
    simp only [read, readBoolean]
    split
    · simp
    · split <;> simp
  | enum type =>
    simp only [read, readMember]
    split <;> simp

/-- The plain notation has no separators to be checked and names no infinite integer. -/
theorem not_breaksOff_read_plain (kind : ShapeKind) (raw : String) :
    ¬BreaksOff .mismatch (read kind none raw) := by
  cases kind with
  | integer =>
    simp only [read, readInteger]
    split <;> simp
  | float => simp [read, readFloat, not_breaksOff_floatOf]
  | text | boolean | enum type => exact not_breaksOff_read_of_not_isNumber rfl none raw

/-- Reading a text breaks off only in the notation of a locale. -/
theorem breaksOff_read_iff (kind : ShapeKind) (locale : Option Locale) (raw : String) :
    BreaksOff .mismatch (read kind locale raw) ↔
      ∃ l, locale = some l ∧ Unreadable l kind (Text.strip raw) := by
  cases locale with
  | none => exact iff_of_false (not_breaksOff_read_plain kind raw) (by simp)
  | some l =>
    simp only [Option.some.injEq, exists_eq_left']
    cases kind with
    | integer => exact breaksOff_readInteger_iff
    | float => exact breaksOff_readFloat_iff
    | text | boolean | enum type =>
      exact iff_of_false (not_breaksOff_read_of_not_isNumber rfl (some l) raw) nofun

end Shape

/-! ## Properties -/

namespace Property

variable {p : Property} {raw : String} {locale : Option String} {l : Option Locale}

/-- How raw text is read: as a value, as none of the shape, or not to the end. -/
theorem read_cases (shape : Shape) (property raw : String) (l : Option Locale) :
    (∃ v, read shape property raw l = .ok v) ∨
      read shape property raw l = .error (.empty property shape raw) ∨
      read shape property raw l = .error (.mismatch property shape raw) ∨
      ∃ fault, read shape property raw l = .error (.unreadable fault) := by
  cases hblank : Text.isAllBlank raw with
  | true =>
    rcases read_blank_cases hblank shape property l with ⟨-, hread⟩ | ⟨-, hread⟩ | hread
    · exact .inl ⟨_, hread⟩
    · exact .inl ⟨_, hread⟩
    · exact .inr (.inl hread)
  | false =>
    rw [read_of_not_blank hblank]
    cases Shape.read shape.kind l raw with
    | ok v => exact .inl ⟨v, rfl⟩
    | error fault =>
      cases fault with
      | mismatch => exact .inr (.inr (.inl rfl))
      | strict fault => exact .inr (.inr (.inr ⟨_, rfl⟩))
      | infinite => exact .inr (.inr (.inr ⟨_, rfl⟩))

theorem read_unreadable_iff (shape : Shape) (property raw : String) (l : Option Locale) :
    (∃ fault, read shape property raw l = .error (.unreadable fault)) ↔
      Text.isAllBlank raw = false ∧ BreaksOff .mismatch (Shape.read shape.kind l raw) := by
  cases hblank : Text.isAllBlank raw with
  | true =>
    refine iff_of_false ?_ (by simp)
    rcases read_blank_cases hblank shape property l with ⟨-, hread⟩ | ⟨-, hread⟩ | hread <;> simp [hread]
  | false =>
    rw [read_of_not_blank hblank, and_iff_right rfl]
    cases Shape.read shape.kind l raw with
    | ok v => simp [Except.mapError]
    | error fault => simp [Except.mapError, faultOf_eq_unreadable_iff]

/-- In a known notation materializing is reading. -/
theorem materialize_eq_map (hraw : p.raw? = some raw) (hlocale : readingLocale locale = .ok l)
    (property : String) (kind : PropertyKind) :
    p.materialize property kind locale =
      (read p.shape property raw l).map fun v => (v, { p with state := .literal v }) := by
  rw [materialize_of_raw hraw, hlocale]
  show read p.shape property raw l >>= _ = _
  cases read p.shape property raw l <;> rfl

theorem materialize_eq_ok_iff (hraw : p.raw? = some raw) (hlocale : readingLocale locale = .ok l)
    (property : String) (kind : PropertyKind) {v : TypedValue} {q : Property} :
    p.materialize property kind locale = .ok (v, q) ↔
      q = { p with state := .literal v } ∧ read p.shape property raw l = .ok v := by
  rw [materialize_eq_map hraw hlocale]
  cases read p.shape property raw l with
  | ok w =>
    constructor
    · rintro ⟨⟩
      exact ⟨rfl, rfl⟩
    · rintro ⟨rfl, ⟨⟩⟩
      rfl
  | error fault => exact ⟨nofun, fun h => nomatch h.2⟩

theorem materialize_eq_error_iff (hraw : p.raw? = some raw) (hlocale : readingLocale locale = .ok l)
    (property : String) (kind : PropertyKind) {fault : PropertyFault} :
    p.materialize property kind locale = .error fault ↔
      read p.shape property raw l = .error fault := by
  rw [materialize_eq_map hraw hlocale]
  cases read p.shape property raw l <;> simp [Except.map]

theorem exists_materialize_iff (hraw : p.raw? = some raw) (hlocale : readingLocale locale = .ok l)
    (property : String) (kind : PropertyKind) {v : TypedValue} :
    (∃ q, p.materialize property kind locale = .ok (v, q)) ↔ read p.shape property raw l = .ok v := by
  rw [materialize_eq_map hraw hlocale]
  cases read p.shape property raw l <;> simp [Except.map]

/-- What becomes of raw text in a known notation.  It is typed, or it is refused with the name of the
property and the text, or reading breaks off; that happens for the texts of `Shape.Unreadable` and for no
others. -/
theorem outcomes_of_materialize (hraw : p.raw? = some raw) (hlocale : readingLocale locale = .ok l)
    (property : String) (kind : PropertyKind) :
    let result := p.materialize property kind locale
    ((∃ v, result = .ok (v, { p with state := .literal v })) ∨
      result = .error (.empty property p.shape raw) ∨
      result = .error (.mismatch property p.shape raw) ∨
      ∃ fault, result = .error (.unreadable fault)) ∧
    ((∃ fault, result = .error (.unreadable fault)) ↔
      Text.isAllBlank raw = false ∧
        ∃ known, l = some known ∧ Shape.Unreadable known p.shape.kind (Text.strip raw)) := by
  intro result
  have hresult : result = _ := materialize_eq_map hraw hlocale property kind
  -- The new state is written with a value only, so that faults are those of the reading.
  have hfault {fault : PropertyFault} :
      result = .error fault ↔ read p.shape property raw l = .error fault := by
    rw [hresult]
    cases read p.shape property raw l <;> simp [Except.map]
  simp only [hfault, ← Shape.breaksOff_read_iff]
  refine ⟨?_, read_unreadable_iff p.shape property raw l⟩
  rcases read_cases p.shape property raw l with ⟨v, hv⟩ | hother
  · refine .inl ⟨v, ?_⟩
    rw [hresult, hv]
    rfl
  · exact .inr hother

/-- An infinite number is no integer, and no fault of the property tells it. -/
theorem outcomes_of_materialize_infinity :
    let p : Property := ⟨⟨.integer, false⟩, .pending "Infinity"⟩
    (p.raw? = some "Infinity" ∧ readingLocale (some "en") = .ok (some .standard)) ∧
      ∃ fault, p.materialize "n" .any (some "en") = .error (.unreadable fault) := by
  intro p
  have hraw : p.raw? = some "Infinity" := rfl
  have hlocale : readingLocale (some "en") = .ok (some .standard) := rfl
  have hstrip : Text.strip "Infinity" = "Infinity" := by decide
  have hread : NumberPattern.reading? Locale.standard.symbols "Infinity" = some (.infinite false) := rfl
  have hunreadable : Shape.Unreadable .standard .integer (Text.strip "Infinity") := by
    rw [hstrip]
    exact .infinite (by decide) hread
  have hbroken := (outcomes_of_materialize hraw hlocale "n" .any).2.2 ⟨by decide, _, rfl, hunreadable⟩
  exact ⟨⟨hraw, hlocale⟩, hbroken⟩

end Property
end ReceiptTemplate
