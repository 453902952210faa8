import Mathlib.Data.List.TakeWhile
import ReceiptTemplate.Filter.Standard
import ReceiptTemplate.Proofs.Filter.NumberFilters
import ReceiptTemplate.Proofs.Text.IntegerText

/-!
# Accepted input — when the standard filters give a value

Most filters give a value on every input.  Four of them do not: `currency`, `number` and `format`
refuse numbers that they can not write, and `currencySymbol` refuses a text that looks like a number
and denotes none.  `Accepts` says on which input each filter gives a value, and that it does so
exactly there.
-/

namespace ReceiptTemplate

open Unicode (isDecimalDigit isDigitLike isNumberBlank)

namespace Filter

/-! ## Accepted input -/

/-- The code that `currencySymbol` looks up for a text. -/
def currencyCode (s : String) : String :=
  Text.upper (Text.strip s)

/-- Whether a code can be looked up: if it looks like a number, it is one of decimal digits. -/
def IsReadableCode (code : String) : Prop :=
  looksLikeNumber code = true →
    (∀ c ∈ code.toList, isDecimalDigit c = true) ∧ code.length ≤ Text.maxIntegerDigits

/-- Whether a number can be written in a format. -/
def NumberFormat.Accepts (d : Decimal) : NumberFormat → Prop
  | .pattern text p =>
    HasPrecision (patternPlaces text p) d ∧
      Writes p (patternPlaces text p) (halfUp (patternPlaces text p) d)
  | .fixed places _ true => Rounds 2 (places + 2) d
  | .fixed places _ false => Rounds 0 places d
  | .unsupported | .invalid => True

/-- The input on which a standard filter gives a value. -/
def Accepts (name : String) (args : FilterArguments) : Value → Prop
  | .number d =>
    if name = "currency" then Rounds 0 2 d
    else if name = "number" then
      Rounds 0 (clamp maxPlaces ((integerArgument? args.positional).getD 0)) d
    else if name = "format" then
      ∀ spec, formatSpec? args = some spec → (NumberFormat.read spec).Accepts d
    else True
  | .text s => name = "currencySymbol" → IsReadableCode (currencyCode s)
  | _ => True

variable {args : FilterArguments} {l : Locale} {d : Decimal} {v : Value}

theorem currencySymbol_text_isOk (s : String) :
    (∃ w, currencySymbol (.text s) args l = .ok w) ↔ IsReadableCode (currencyCode s) := by
  unfold currencySymbol IsReadableCode
  dsimp only
  cases hlooks : looksLikeNumber (Text.upper (Text.strip s)) with
  | false => simp [currencyCode, hlooks]
  | true =>
    have hparts := hlooks
    simp only [looksLikeNumber, bne_iff_ne, Bool.and_eq_true, List.all_eq_true] at hparts
    have hread := Text.readInteger?_isSome_iff hparts.1 hparts.2
    simp only [currencyCode, hlooks, true_implies, if_true]
    rw [← hread]
    cases Text.readInteger? (Text.upper (Text.strip s)) <;> simp

theorem shorthandPlaces?_le {digits : List Char} {places : Nat}
    (h : shorthandPlaces? digits = some places) : places < 100 := by
  unfold shorthandPlaces? at h
  split at h
  · next hdigits =>
    simp only [Bool.and_eq_true, decide_eq_true_eq] at hdigits
    have hlt := Text.readDigits_lt digits
    have hpow : 10 ^ digits.length ≤ 10 ^ 2 := Nat.pow_le_pow_right (by decide) hdigits.1
    simp only [Option.some.injEq] at h
    split at h <;> omega
  · cases h

theorem NumberFormat.ofPattern_cases (spec : String) :
    (∃ p, ofPattern spec = .pattern spec p ∧ NumberPattern.read? spec = some p) ∨
      ofPattern spec = .unsupported ∨ ofPattern spec = .invalid := by
  unfold ofPattern
  split
  · cases hread : NumberPattern.read? spec with
    | some p => exact .inl ⟨p, rfl, rfl⟩
    | none => exact .inr (.inr rfl)
  · exact .inr (.inl rfl)

/-- A format is a pattern that was read from the text, a shorthand of at most two digits, or none.
-/
theorem NumberFormat.read_cases (spec : String) :
    (∃ p, NumberFormat.read spec = .pattern spec p ∧ NumberPattern.read? spec = some p) ∨
      (∃ places isGrouped isPercent, NumberFormat.read spec = .fixed places isGrouped isPercent ∧
        places < 100) ∨
      NumberFormat.read spec = .unsupported ∨ NumberFormat.read spec = .invalid := by
  have hletter (c : Char) (places : Nat) (h : places < 100) :
      (∃ n isGrouped isPercent, ofLetter c places = .fixed n isGrouped isPercent ∧ n < 100) ∨
        ofLetter c places = .unsupported := by
    unfold ofLetter
    split
    · exact .inl ⟨places, _, _, rfl, h⟩
    · exact .inl ⟨places, _, _, rfl, h⟩
    · exact .inl ⟨places, _, _, rfl, h⟩
    · exact .inr rfl
  have hpattern := ofPattern_cases spec
  unfold NumberFormat.read
  split
  · -- A letter of a shorthand comes first; what is no shorthand is tried as a pattern.
    next c digits _ =>
    split
    · cases hplaces : shorthandPlaces? digits with
      | some places =>
        dsimp only
        rcases hletter c places (shorthandPlaces?_le hplaces) with hfixed | hnone
        · exact .inr (.inl hfixed)
        · exact .inr (.inr (.inl hnone))
      | none => rcases hpattern with h | h <;> simp_all
    · rcases hpattern with h | h <;> simp_all
  · rcases hpattern with h | h <;> simp_all

/-- The places of a pattern leave room for its scale. -/
theorem fraction_le_patternPlaces (text : String) (p : NumberPattern) :
    p.fraction.most + p.scale ≤ patternPlaces text p + 4 := by
  have hscale := p.scale_le
  have hplaces : p.fraction.most ≤ patternPlaces text p := Nat.le_add_right _ _
  omega

theorem formatNumber_isOk {spec : String} (hspec : spec.length ≤ maxFormatLength) :
    (∃ w, formatNumber spec l d = .ok w) ↔ (NumberFormat.read spec).Accepts d := by
  have hlength : spec.length ≤ 100 := hspec
  rcases NumberFormat.read_cases spec with ⟨p, hformat, hread⟩ |
    ⟨places, isGrouped, isPercent, hformat, hplaces⟩ | hformat | hformat
  · -- A format of at most a hundred characters is a small pattern.
    have hmax : Decimal.Limits.standard.emax = 999999 := rfl
    have hsmall : p.IsSmall Decimal.Limits.standard :=
      NumberPattern.isSmall_of_read? hread (by omega) (Nat.le_trans hlength (by decide))
    rw [formatNumber, hformat]
    exact writeNumber_isOk hsmall (fraction_le_patternPlaces spec p)
  · have hmost : places ≤ Text.maxIntegerDigits := Nat.le_trans (Nat.le_of_lt hplaces) (by decide)
    rw [formatNumber, hformat]
    cases isPercent with
    | true => exact writeNumber_percent_isOk isGrouped hmost
    | false => exact writeNumber_fixed_isOk isGrouped hmost
  · simp [formatNumber, hformat, NumberFormat.Accepts]
  · simp [formatNumber, hformat, NumberFormat.Accepts]

theorem length_of_formatSpec? {spec : String} (h : formatSpec? args = some spec) :
    spec.length ≤ maxFormatLength := by
  unfold formatSpec? at h
  split at h
  · split at h
    · cases h
    · cases h
      simp only [Text.take, String.length_ofList, List.length_take]
      exact Nat.min_le_left _ _
  · cases h

/-! ## One filter at a time -/

/-- A filter of numbers gives a value on everything else. -/
theorem isOk_iff_of_number (f : Value → Except FilterFault Value) {name : String}
    (hsymbol : name ≠ "currencySymbol")
    (hnumber : ∀ d, (∃ w, f (.number d) = .ok w) ↔ Accepts name args (.number d))
    (hother : ∀ v, (∀ d, v ≠ .number d) → ∃ w, f v = .ok w) (v : Value) :
    (∃ w, f v = .ok w) ↔ Accepts name args v := by
  cases v with
  | number d => exact hnumber d
  | text s =>
    have haccepts : Accepts name args (.text s) := fun h => absurd h hsymbol
    exact iff_of_true (hother (.text s) (by simp)) haccepts
  | null => exact iff_of_true (hother .null (by simp)) trivial
  | bool b => exact iff_of_true (hother (.bool b) (by simp)) trivial
  | array items => exact iff_of_true (hother (.array items) (by simp)) trivial
  | object entries => exact iff_of_true (hother (.object entries) (by simp)) trivial

/-- A filter that looks at no magnitude and at no code accepts every input. -/
theorem isOk_iff_of_forall (f : Value → Except FilterFault Value) {name : String}
    (hcurrency : name ≠ "currency") (hnumber : name ≠ "number") (hformat : name ≠ "format")
    (hsymbol : name ≠ "currencySymbol") (hvalue : ∀ v, ∃ w, f v = .ok w) (v : Value) :
    (∃ w, f v = .ok w) ↔ Accepts name args v := by
  refine isOk_iff_of_number f hsymbol ?_ (fun v _ => hvalue v) v
  intro d
  have haccepts : Accepts name args (.number d) := by
    rw [Accepts, if_neg hcurrency, if_neg hnumber, if_neg hformat]
    trivial
  exact iff_of_true (hvalue (.number d)) haccepts

theorem currency_isOk (v : Value) :
    (∃ w, currency v args l = .ok w) ↔ Accepts "currency" args v := by
  refine isOk_iff_of_number (fun v => currency v args l) (by decide) ?_ ?_ v
  · intro d
    rw [Accepts, if_pos rfl]
    exact writeNumber_fixed_isOk true (by decide)
  · intro v hv
    cases v with
    | number d => exact absurd rfl (hv d)
    | _ => exact ⟨.null, rfl⟩

theorem number_isOk (v : Value) :
    (∃ w, number v args l = .ok w) ↔ Accepts "number" args v := by
  refine isOk_iff_of_number (fun v => number v args l) (by decide) ?_ ?_ v
  · intro d
    have hclamp : clamp maxPlaces ((integerArgument? args.positional).getD 0)
        ≤ Text.maxIntegerDigits :=
      Nat.le_trans (Nat.min_le_left _ _) (by decide)
    rw [Accepts, if_neg (by decide), if_pos rfl]
    exact writeNumber_fixed_isOk false hclamp
  · intro v hv
    cases v with
    | number d => exact absurd rfl (hv d)
    | _ => exact ⟨.null, rfl⟩

theorem format_isOk (v : Value) :
    (∃ w, format v args l = .ok w) ↔ Accepts "format" args v := by
  refine isOk_iff_of_number (fun v => format v args l) (by decide) ?_ ?_ v
  · intro d
    rw [Accepts, if_neg (by decide), if_neg (by decide), if_pos rfl]
    -- Without a format the number is given back as it is.
    cases hspec : formatSpec? args with
    | none => simp [format, hspec]
    | some spec =>
      simp only [format, hspec, Option.some.injEq, forall_eq']
      exact formatNumber_isOk (length_of_formatSpec? hspec)
  · intro v hv
    cases v with
    | number d => exact absurd rfl (hv d)
    | _ => cases hspec : formatSpec? args <;> simp [format, hspec]

theorem currencySymbol_isOk (v : Value) :
    (∃ w, currencySymbol v args l = .ok w) ↔ Accepts "currencySymbol" args v := by
  cases v with
  | text s =>
    rw [currencySymbol_text_isOk]
    exact ⟨fun h _ => h, fun h => h rfl⟩
  | number d =>
    rw [Accepts, if_neg (by decide), if_neg (by decide), if_neg (by decide)]
    exact iff_of_true ⟨_, rfl⟩ trivial
  | _ => exact iff_of_true ⟨_, rfl⟩ trivial

theorem onText_isOk (f : String → String) (v : Value) : ∃ w, onText f v args l = .ok w := by
  cases v <;> exact ⟨_, rfl⟩

theorem truncate_isOk (v : Value) : ∃ w, truncate v args l = .ok w := by
  cases v <;> exact ⟨_, rfl⟩

/-! ## All filters -/

end Filter
end ReceiptTemplate
