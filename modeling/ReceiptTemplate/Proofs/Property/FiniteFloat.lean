import ReceiptTemplate.Proofs.Binary64.Range
import ReceiptTemplate.Proofs.Property.Materializing
import ReceiptTemplate.Proofs.Text.IntegerText

/-!
# Finite floats — the values of a float property

A number that is read as a float is refused when it is infinite.  The plain notation has no letters but the
mark of an exponent, so that it names no other special value, and what it gives is a finite double.  The
notation of a locale can name a value that is no number, and that is let through.
-/

namespace ReceiptTemplate

open Unicode (isDecimalDigit)

/-! ## Names of special values -/

/-- Decimal digits have no case. -/
theorem Unicode.toLower_of_isDecimalDigit {c : Char} (h : isDecimalDigit c = true) : c.toLower = c := by
  unfold Char.toLower
  split
  · next hupper =>
    have hrange : 65 ≤ c.toNat ∧ c.toNat ≤ 90 := hupper
    rw [isDecimalDigit_of_lt (by omega)] at h
    have hdigit : 48 ≤ c.toNat ∧ c.toNat ≤ 57 := Char.isDigit_iff_toNat.1 h
    omega
  · rfl

namespace Binary64

/-- Only underscores are left out. -/
theorem ungroup_sublist {cs ds : List Char} (h : ungroup cs = some ds) : ds.Sublist cs := by
  fun_induction ungroup cs generalizing ds
  case case1 | case3 =>
    cases h
    exact List.Sublist.refl _
  case case2 | case5 | case6 => cases h
  case case4 c d cs hdigits ih =>
    obtain ⟨rest, hrest, rfl⟩ := Option.map_eq_some_iff.1 h
    exact ((ih hrest).cons '_').cons_cons c
  case case7 c d cs hother hc ih =>
    obtain ⟨rest, hrest, rfl⟩ := Option.map_eq_some_iff.1 h
    exact (ih hrest).cons_cons c

/-- A letter in the ASCII form of a text stands in the text. -/
theorem mem_of_mem_asciiForm {cs ds : List Char} (h : Decimal.asciiForm cs = some ds) {d : Char}
    (hd : d ∈ ds) (hblank : d ≠ ' ') (hdigit : isDecimalDigit d = false) : d ∈ cs := by
  unfold Decimal.asciiForm at h
  induction cs generalizing ds with
  | nil =>
    cases h
    cases hd
  | cons c cs ih =>
    rw [List.mapM_cons] at h
    obtain ⟨first, hfirst, h⟩ := Option.bind_eq_some_iff.1 h
    obtain ⟨rest, hrest, h⟩ := Option.bind_eq_some_iff.1 h
    cases h
    rcases List.mem_cons.1 hd with rfl | hd
    swap
    · exact List.mem_cons_of_mem _ (ih hrest hd)
    unfold Decimal.asciiChar? at hfirst
    split at hfirst
    · cases hfirst
      exact List.mem_cons_self
    · split at hfirst
      · cases hfirst
        exact absurd rfl hblank
      · -- The digits of other scripts become ASCII digits.
        obtain ⟨v, hv, rfl⟩ := Option.map_eq_some_iff.1 hfirst
        have hten : ∀ v < 10, isDecimalDigit (Char.ofNat (48 + v)) = true := by decide
        rw [hten v (Unicode.digitValue?_lt hv)] at hdigit
        cases hdigit

theorem map_toLower_of_readSpecial?_nan {negative : Bool} {cs : List Char}
    (h : readSpecial? negative cs = some .nan) : cs.map Char.toLower = ['n', 'a', 'n'] := by
  unfold readSpecial? at h
  dsimp only at h
  split at h
  · cases h
  · split at h
    · next hname => exact hname
    · cases h

theorem inRange_of_read? {s : String} {x : Binary64} (h : read? s = some x) : InRange x := by
  unfold read? at h
  obtain ⟨ascii, -, h⟩ := Option.bind_eq_some_iff.1 h
  obtain ⟨cs, -, h⟩ := Option.bind_eq_some_iff.1 h
  dsimp only at h
  split at h
  · next d hread =>
    rw [← Option.some.inj h]
    exact inRange_ofDecimal d
  · unfold readSpecial? at h
    dsimp only at h
    split at h
    · cases h
      trivial
    · split at h
      · cases h
        trivial
      · cases h

/-- The name of the value that is no number starts with a letter that stands in the text. -/
theorem exists_mem_of_read?_nan {s : String} (h : read? s = some .nan) :
    ∃ c ∈ s.toList, c.toLower = 'n' := by
  unfold read? at h
  obtain ⟨ascii, hascii, h⟩ := Option.bind_eq_some_iff.1 h
  obtain ⟨cs, hcs, h⟩ := Option.bind_eq_some_iff.1 h
  dsimp only at h
  have hname : (Text.splitSign cs).2.map Char.toLower = ['n', 'a', 'n'] := by
    split at h
    · next d hread => exact absurd (Option.some.inj h) (ofDecimal_ne_nan d)
    · exact map_toLower_of_readSpecial?_nan h
  -- The first letter is followed back through the steps of reading, none of which writes letters.
  obtain ⟨c, rest, hbody, hlower, -⟩ := List.map_eq_cons_iff.1 hname
  have hblank : c ≠ ' ' := by
    rintro rfl
    cases hlower
  have hdigit : isDecimalDigit c = false := by
    rw [Bool.eq_false_iff]
    intro hdigit
    rw [Unicode.toLower_of_isDecimalDigit hdigit] at hlower
    rw [hlower] at hdigit
    exact absurd hdigit (by decide)
  have hmem : c ∈ cs := Text.mem_of_splitSign (by rw [hbody]; exact List.mem_cons_self)
  have hstripped := mem_of_mem_asciiForm hascii ((ungroup_sublist hcs).mem hmem) hblank hdigit
  exact ⟨c, Text.mem_of_mem_stripWhile hstripped, hlower⟩

end Binary64

/-! ## Plain notation -/

namespace Shape

/-- The characters of numbers in plain notation. -/
def IsPlainChar (c : Char) : Prop :=
  isDecimalDigit c = true ∨ c ∈ ['-', '+', '.', 'e', 'E']

theorem isPlainChar_of_isPlainInteger {cs : List Char} (h : isPlainInteger cs = true) {c : Char}
    (hc : c ∈ cs) : IsPlainChar c := by
  rw [isPlainInteger, Bool.and_eq_true, List.all_eq_true] at h
  rcases Text.mem_of_mem_splitSign hc with rfl | rfl | hdigit
  · exact .inr (by decide)
  · exact .inr (by decide)
  · exact .inl (h.2 c hdigit)

theorem isPlainChar_of_isPlainExponent {cs : List Char} (h : isPlainExponent cs = true) {c : Char}
    (hc : c ∈ cs) : IsPlainChar c := by
  cases cs with
  | nil => cases hc
  | cons mark tail =>
    simp only [isPlainExponent, Bool.and_eq_true, Bool.or_eq_true, beq_iff_eq] at h
    rcases List.mem_cons.1 hc with rfl | hc
    · rcases h.1 with rfl | rfl
      · exact .inr (by decide)
      · exact .inr (by decide)
    · exact isPlainChar_of_isPlainInteger h.2 hc

/-- The plain notation of a float has no letters but the mark of an exponent. -/
theorem isPlainChar_of_isPlainFloat {cs : List Char} (h : isPlainFloat cs = true) {c : Char}
    (hc : c ∈ cs) : IsPlainChar c := by
  -- What is left of a run of digits is looked at in the next step.
  have hsplit {run : List Char} (hmem : c ∈ run) :
      IsPlainChar c ∨ c ∈ run.dropWhile isDecimalDigit := by
    rw [← List.takeWhile_append_dropWhile (p := isDecimalDigit) (l := run), List.mem_append] at hmem
    exact hmem.imp_left fun hdigit => .inl (List.mem_takeWhile_imp hdigit)
  rcases Text.mem_of_mem_splitSign hc with rfl | rfl | hbody
  · exact .inr (by decide)
  · exact .inr (by decide)
  rcases hsplit hbody with hwhole | hrest
  · exact hwhole
  unfold isPlainFloat at h
  dsimp only at h
  generalize (Text.splitSign cs).2.dropWhile isDecimalDigit = rest at h hrest
  split at h
  · next tail =>
    rw [Bool.and_eq_true] at h
    rcases List.mem_cons.1 hrest with rfl | htail
    · exact .inr (by decide)
    rcases hsplit htail with hfraction | hexponent
    · exact hfraction
    · exact isPlainChar_of_isPlainExponent h.2 hexponent
  · rw [Bool.and_eq_true] at h
    exact isPlainChar_of_isPlainExponent h.2 hrest

theorem read?_ne_nan_of_isPlainFloat {s : String} (h : isPlainFloat s.toList = true) :
    Binary64.read? s ≠ some .nan := by
  intro hread
  obtain ⟨c, hc, hlower⟩ := Binary64.exists_mem_of_read?_nan hread
  rcases isPlainChar_of_isPlainFloat h hc with hdigit | hmark
  · rw [Unicode.toLower_of_isDecimalDigit hdigit] at hlower
    rw [hlower] at hdigit
    exact absurd hdigit (by decide)
  · have hmarks : ['-', '+', '.', 'e', 'E'].all (·.toLower != 'n') = true := by decide
    have hne := List.all_eq_true.1 hmarks c hmark
    rw [hlower] at hne
    cases hne

/-! ## Floats -/

theorem floatOf_eq_ok {x : Option Binary64} {v : TypedValue} (h : floatOf x = .ok v) :
    ∃ y, x = some y ∧ v = .float y ∧ ∀ negative, y ≠ .infinite negative := by
  cases x with
  | none => cases h
  | some y =>
    cases y with
    | infinite negative => cases h
    | finite negative mantissa exponent =>
      cases h
      exact ⟨_, rfl, rfl, nofun⟩
    | nan =>
      cases h
      exact ⟨_, rfl, rfl, nofun⟩

theorem isFinite_of_ne {x : Binary64} (hinfinite : ∀ negative, x ≠ .infinite negative)
    (hnan : x ≠ .nan) : x.isFinite = true := by
  cases x with
  | finite negative mantissa exponent => rfl
  | infinite negative => exact absurd rfl (hinfinite negative)
  | nan => exact absurd rfl hnan

/-- What is read as a float is a finite double, or a value that is no number in the notation of a
locale. -/
theorem readFloat_eq_ok {locale : Option Locale} {s : String} {v : TypedValue}
    (h : readFloat locale s = .ok v) :
    (∃ x, v = .float x ∧ x.isFinite = true ∧ x.InRange) ∨
      v = .float .nan ∧ ∃ l negative payload, locale = some l ∧
        l.readNumber s = .ok (.nan negative false payload) := by
  cases locale with
  | none =>
    obtain ⟨x, hx, rfl, hinfinite⟩ := floatOf_eq_ok h
    split at hx
    · next hplain =>
      -- The pattern has no letters for the name of a special value.
      have hnan : x ≠ .nan := by
        rintro rfl
        exact read?_ne_nan_of_isPlainFloat hplain hx
      exact .inl ⟨x, rfl, isFinite_of_ne hinfinite hnan, Binary64.inRange_of_read? hx⟩
    · cases hx
  | some l =>
    unfold readFloat at h
    dsimp only at h
    cases hread : l.readNumber s with
    | error fault =>
      rw [hread] at h
      cases h
    | ok r =>
      rw [hread] at h
      obtain ⟨x, hx, rfl, hinfinite⟩ := floatOf_eq_ok h
      cases r with
      | finite d =>
        have hvalue : Binary64.ofDecimal d = x := Option.some.inj hx
        have hnan : x ≠ .nan := hvalue ▸ Binary64.ofDecimal_ne_nan d
        exact .inl ⟨x, rfl, isFinite_of_ne hinfinite hnan, hvalue ▸ Binary64.inRange_ofDecimal d⟩
      | infinite negative =>
        cases hx
        exact absurd rfl (hinfinite negative)
      | nan negative signaling payload =>
        cases signaling with
        | true => cases hx
        | false =>
          cases hx
          exact .inr ⟨rfl, l, negative, payload, rfl, hread⟩

/-- The value that is no number is read where a locale reads its name. -/
theorem readFloat_eq_nan_iff {locale : Option Locale} {s : String} :
    readFloat locale s = .ok (.float .nan) ↔ ∃ l negative payload, locale = some l ∧
      l.readNumber s = .ok (.nan negative false payload) := by
  constructor
  · intro h
    rcases readFloat_eq_ok h with ⟨x, hx, hfinite, -⟩ | ⟨-, hname⟩
    · cases hx
      cases hfinite
    · exact hname
  · rintro ⟨l, negative, payload, rfl, hname⟩
    unfold readFloat
    dsimp only
    rw [hname]
    rfl

end Shape

/-! ## Properties -/

namespace Property

variable {p : Property} {raw : String} {locale : Option String} {l : Option Locale}

/-- The values of a float property.  They are finite doubles, no value where blank text stands for none,
and a value that is no number where the text is the name of one in the notation of a locale.  They are
never infinite. -/
theorem float_of_materialize (hraw : p.raw? = some raw) (hkind : p.shape.kind = .float)
    (hlocale : readingLocale locale = .ok l) (property : String) (kind : PropertyKind) :
    let result := p.materialize property kind locale
    (∀ v q, result = .ok (v, q) →
      (v = .absent ∧ p.shape.isOptional = true ∧ Text.isAllBlank raw = true) ∨
        (∃ x, v = .float x ∧ x.isFinite = true ∧ x.InRange) ∨ v = .float .nan) ∧
    ((∃ q, result = .ok (.float .nan, q)) ↔
      Text.isAllBlank raw = false ∧ ∃ known negative payload, l = some known ∧
        known.readNumber (Text.strip raw) = .ok (.nan negative false payload)) := by
  intro result
  have hok {v : TypedValue} : (∃ q, result = .ok (v, q)) ↔ read p.shape property raw l = .ok v :=
    exists_materialize_iff hraw hlocale property kind
  cases hblank : Text.isAllBlank raw with
  | true =>
    -- The shape is no text, so that blank text is no value or refused.
    have habsent {v : TypedValue} (hvalue : read p.shape property raw l = .ok v) :
        v = .absent ∧ p.shape.isOptional = true := by
      rcases read_blank_cases hblank p.shape property l with ⟨hoptional, hread⟩ | ⟨htext, -⟩ | hread
      · rw [hread] at hvalue
        cases hvalue
        exact ⟨rfl, hoptional⟩
      · rw [hkind] at htext
        cases htext
      · rw [hread] at hvalue
        cases hvalue
    constructor
    · intro v q hv
      have hvalue := habsent (hok.1 ⟨q, hv⟩)
      exact .inl ⟨hvalue.1, hvalue.2, rfl⟩
    · refine iff_of_false ?_ (by simp)
      intro hnan
      cases (habsent (hok.1 hnan)).1
  | false =>
    have hread {v : TypedValue} :
        read p.shape property raw l = .ok v ↔ Shape.readFloat l (Text.strip raw) = .ok v := by
      rw [read_eq_ok_iff hblank, hkind]
      rfl
    constructor
    · intro v q hv
      rcases Shape.readFloat_eq_ok (hread.1 (hok.1 ⟨q, hv⟩)) with hfinite | ⟨hnan, -⟩
      · exact .inr (.inl hfinite)
      · exact .inr (.inr hnan)
    · rw [hok, hread, Shape.readFloat_eq_nan_iff, and_iff_right rfl]

/-- The name of the value that is no number is read in the notation of a locale. -/
theorem float_of_materialize_nan :
    let p : Property := ⟨⟨.float, false⟩, .pending "NaN"⟩
    (p.raw? = some "NaN" ∧ p.shape.kind = .float ∧
        readingLocale (some "en") = .ok (some .standard)) ∧
      ∃ q, p.materialize "n" .any (some "en") = .ok (.float .nan, q) := by
  intro p
  have hraw : p.raw? = some "NaN" := rfl
  have hkind : p.shape.kind = .float := rfl
  have hlocale : readingLocale (some "en") = .ok (some .standard) := rfl
  have hread : Locale.standard.readNumber (Text.strip "NaN") = .ok (.nan false false []) := by
    have hstrip : Text.strip "NaN" = "NaN" := by decide
    rw [hstrip, Locale.readNumber, NumberPattern.readStrict_eq_ok_iff]
    exact ⟨rfl, fun hgroup => absurd hgroup (by decide)⟩
  have hnan := (float_of_materialize hraw hkind hlocale "n" .any).2.2
    ⟨by decide, _, false, [], rfl, hread⟩
  exact ⟨⟨hraw, hkind, hlocale⟩, hnan⟩

end Property
end ReceiptTemplate
