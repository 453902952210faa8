import ReceiptTemplate.Proofs.Decimal.Fitting
import ReceiptTemplate.Proofs.Number.StrictReading

/-!
# Proper text — when the check of separators breaks off

The text that a locale writes for a number is made up in the standard precision with all places of its
decimal pattern.  That leaves twenty-five digits before the point where the pattern has three places, and
twenty-two where it has six, for a number that is rounded to the precision first.  A number without room
for its places breaks off the check of the separators in its text, and so does a signaling value.  A text
that fails the check is compared with nothing more, but the number that may have been meant is written for
a suggestion, and that can break off as well.
-/

namespace ReceiptTemplate

/-! ## Computations that break off -/

section

variable {ε α β : Type} {expected fault : ε}

/-- A computation fails, and not with the fault that is expected of it. -/
def BreaksOff (expected : ε) (x : Except ε α) : Prop :=
  ∃ fault, x = .error fault ∧ fault ≠ expected

@[simp]
theorem not_breaksOff_ok (expected : ε) (a : α) : ¬BreaksOff expected (.ok a : Except ε α) := by
  rintro ⟨fault, hfault, -⟩
  cases hfault

@[simp]
theorem breaksOff_error : BreaksOff expected (.error fault : Except ε α) ↔ fault ≠ expected := by
  constructor
  · rintro ⟨fault', hfault, hne⟩
    cases hfault
    exact hne
  · exact fun hne => ⟨fault, rfl, hne⟩

theorem breaksOff_bind {x : Except ε α} {f : α → Except ε β} :
    BreaksOff expected (x >>= f) ↔ BreaksOff expected x ∨ ∃ a, x = .ok a ∧ BreaksOff expected (f a) := by
  cases x with
  | error fault =>
    show BreaksOff expected (.error fault : Except ε β) ↔ _
    simp
  | ok a =>
    show BreaksOff expected (f a) ↔ _
    simp

end

namespace NumberPattern

open Decimal (FitsAt Limits digitCount)

variable {q : NumberPattern} {s : NumberSymbols} {d fitted : Decimal} {text : String}
  {r : Decimal.Reading}

/-! ## Room for the places -/

/-- Numbers whose whole digits leave room for the places of a pattern, once the numbers are rounded to the
standard precision. -/
def HasRoom (q : NumberPattern) (d : Decimal) : Prop :=
  |d.toRat| < 10 ^ (28 - q.fraction.most) - 1 / (2 * 10 ^ q.fraction.most)

theorem hasRoom_iff (hq : q.IsDecimal) (d : Decimal) :
    q.HasRoom d ↔ |Limits.standard.round d.toRat| < 10 ^ ((28 - q.fraction.most : Nat) : ℤ) := by
  have hprecision : Limits.standard.precision = 28 := rfl
  have hlow : Limits.standard.etiny = -1000026 := rfl
  have hmost := hq.most
  have hreach := Limits.ten_zpow_le_abs_round_iff (l := .standard)
    (k := ((28 - q.fraction.most : Nat) : ℤ)) (x := d.toRat) (by decide) (by omega)
  have hbound : (10 : ℚ) ^ ((28 - q.fraction.most : Nat) : ℤ)
        - 10 ^ (((28 - q.fraction.most : Nat) : ℤ) - Limits.standard.precision) / 2
      = 10 ^ (28 - q.fraction.most) - 1 / (2 * 10 ^ q.fraction.most) := by
    have hunit : ((28 - q.fraction.most : Nat) : ℤ) - Limits.standard.precision
        = -(q.fraction.most : ℤ) := by omega
    rw [hunit, zpow_neg, zpow_natCast, zpow_natCast]
    ring
  rw [hbound] at hreach
  rw [HasRoom, ← not_le, ← not_le, hreach]

/-- A number that is fitted into the standard precision has room if its whole digits leave it. -/
theorem fitsAt_iff_hasRoom (hq : q.IsDecimal) (h : Decimal.fit? .standard d = some fitted) :
    FitsAt .standard (q.withPlaces (naturalPlaces fitted)).fraction.most fitted.abs.normalize ↔
      q.HasRoom d := by
  rw [hasRoom_iff hq, (Decimal.round_of_fit? Limits.proper_standard h).1]
  cases hzero : fitted.isZero with
  | true =>
    have hzeroNormal : fitted.abs.normalize.isZero = true := (Decimal.isZero_normalize _).trans hzero
    rw [Decimal.toRat_of_isZero hzero, abs_zero]
    exact iff_of_true (.inl hzeroNormal) (ten_zpow_pos _)
  | false =>
    have hprecision : Limits.standard.precision = 28 := rfl
    have hmost := hq.most
    have hdigits := Decimal.digitCount_of_fit? Limits.proper_standard h
    have hplaces : (q.withPlaces (naturalPlaces fitted)).fraction.most
        = max q.fraction.most (naturalPlaces fitted) := rfl
    rw [fitsAt_abs_normalize_iff hzero, Decimal.abs_toRat_lt_iff hzero, hplaces]
    rcases Decimal.normalize_spec hzero with ⟨-, hadjusted, hexponent⟩
    -- A fraction of more digits than the places leaves fewer before the point.
    have hsplit : fitted.adjusted = fitted.exponent + digitCount fitted.coefficient - 1 := rfl
    simp only [naturalPlaces]
    omega

/-- A number that fits is written, unless its fraction is too long to be looked through. -/
theorem fixedChars_isOk_or {l : Limits} (hmax : 0 ≤ l.emax) {p : NumberPattern} {places : DigitRange}
    (hexact : -(places.most : Int) ≤ d.exponent) (hfits : FitsAt l places.most d) :
    (∃ cs, p.fixedChars l s places d = .ok cs) ∨
      p.fixedChars l s places d = .error (.longFraction places.most) := by
  by_cases hshort : IsShort places
  · exact .inl ⟨_, fixedChars_of_fits hmax hexact hshort hfits⟩
  · have hround : Decimal.roundWithin? l .toEven places.most d = some d := by
      rw [Decimal.roundWithin?_eq_some_iff hmax, Decimal.roundPlaces_of_le hexact]
      exact ⟨rfl, hfits⟩
    unfold IsShort at hshort
    unfold fixedChars
    rw [hround]
    dsimp only
    rw [if_pos (by omega)]
    exact .inr rfl

/-- The proper text of a number is made up, or refused for the length of its fraction, exactly if the
number has room for the places. -/
theorem properText_cases (hq : q.IsDecimal) (s : NumberSymbols) (d : Decimal) :
    (q.HasRoom d ∧ ((∃ proper, q.properText s d = .ok proper) ∨
        ∃ digits, q.properText s d = .error (.longFraction digits))) ∨
      (¬q.HasRoom d ∧ (q.properText s d = .error .imprecise ∨ q.properText s d = .error .overflow)) := by
  unfold properText
  cases hfit : Decimal.fit? .standard d with
  | none =>
    -- What overflows the exponents of the standard precision is far beyond its digits.
    have hlarge := Decimal.le_round_of_fit?_eq_none Limits.proper_standard hfit
    have hmax : Limits.standard.emax = 999999 := rfl
    refine .inr ⟨?_, .inr rfl⟩
    rw [hasRoom_iff hq, not_lt]
    exact (zpow_le_zpow_right₀ (by norm_num) (by omega)).trans hlarge
  | some fitted =>
    have hroom := fitsAt_iff_hasRoom hq hfit
    have hplain : (q.withPlaces (naturalPlaces fitted)).IsPlain := hq.plain.with_fraction _
    have hexact : -((q.withPlaces (naturalPlaces fitted)).fraction.most : Int)
        ≤ fitted.abs.normalize.exponent := by
      rw [Decimal.normalize_abs]
      show -((max q.fraction.most (naturalPlaces fitted) : Nat) : Int) ≤ fitted.normalize.exponent
      simp only [naturalPlaces]
      omega
    have hrange : fitted.isZero = true ∨ fitted.adjusted ≤ Limits.standard.emax := by
      cases hzero : fitted.isZero with
      | true => exact .inl rfl
      | false =>
        have hlt := (Decimal.round_of_fit? Limits.proper_standard hfit).2
        rw [Decimal.abs_toRat_lt_iff hzero] at hlt
        exact .inr (by omega)
    dsimp only
    rw [format_of_isPlain hplain hrange]
    by_cases hfits : FitsAt .standard (q.withPlaces (naturalPlaces fitted)).fraction.most
        fitted.abs.normalize
    · refine .inl ⟨hroom.1 hfits, ?_⟩
      rcases fixedChars_isOk_or (p := q.withPlaces (naturalPlaces fitted)) (s := s) (by decide) hexact
        hfits with ⟨cs, hcs⟩ | hlong
      · rw [hcs]
        exact .inl ⟨_, rfl⟩
      · rw [hlong]
        exact .inr ⟨_, rfl⟩
    · refine .inr ⟨mt hroom.2 hfits, .inl ?_⟩
      rw [fixedChars_of_not_fits (by decide) hexact hfits]
      rfl

/-! ## Strict reading -/

/-- What a text denotes, whatever its separators are. -/
def reading? (s : NumberSymbols) (text : String) : Option Decimal.Reading :=
  Decimal.read? (String.ofList (plainForm s text.toList))

/-- Strict reading is reading and, for a text with separators, the check that the text is proper. -/
theorem readStrict_eq (q : NumberPattern) (s : NumberSymbols) (text : String) :
    q.readStrict s text =
      match reading? s text with
      | none => .error .malformed
      | some r =>
        if s.group ∈ text.toList then
          q.isProper s text r >>= fun proper =>
            if proper then .ok r else .error (q.improperFault s text)
        else .ok r := by
  unfold readStrict reading? plainForm
  dsimp only
  generalize Decimal.read? _ = read
  cases read with
  | none => rfl
  | some r =>
    simp only [List.contains_iff_mem]
    split
    · cases hproper : q.isProper s text r with
      | error fault => rfl
      | ok proper => cases proper <;> rfl
    · rfl

/-- What is read of a text with separators is read of a proper one. -/
theorem readStrict_eq_ok_iff :
    q.readStrict s text = .ok r ↔
      reading? s text = some r ∧ (s.group ∈ text.toList → q.isProper s text r = .ok true) := by
  rw [readStrict_eq]
  cases hread : reading? s text with
  | none => simp
  | some r' =>
    dsimp only
    by_cases hgroup : s.group ∈ text.toList
    swap
    · simp [hgroup]
    rw [if_pos hgroup]
    cases hproper : q.isProper s text r' with
    | error fault =>
      refine iff_of_false nofun ?_
      rintro ⟨hsome, hchecked⟩
      cases hsome
      rw [hproper] at hchecked
      cases hchecked hgroup
    | ok proper =>
      cases proper with
      | true =>
        constructor
        · intro hok
          cases hok
          exact ⟨rfl, fun _ => hproper⟩
        · rintro ⟨hsome, -⟩
          cases hsome
          rfl
      | false =>
        refine iff_of_false nofun ?_
        rintro ⟨hsome, hchecked⟩
        cases hsome
        rw [hproper] at hchecked
        cases hchecked hgroup

/-- Why the separators in a text can not be checked. -/
inductive Uncheckable (q : NumberPattern) (s : NumberSymbols) (text : String) : Prop
  /-- The text denotes a value that takes part in no operation. -/
  | signaling {negative : Bool} {payload : List Char}
      (hread : reading? s text = some (.nan negative true payload))
  /-- The text denotes a number without room for its places. -/
  | large {d : Decimal} (hread : reading? s text = some (.finite d)) (hroom : ¬q.HasRoom d)
  /-- The text is not proper, and the number that may have been meant has no room. -/
  | suggestion {r : Decimal.Reading} {d : Decimal} (hread : reading? s text = some r)
      (hproper : q.isProper s text r = .ok false) (hswapped : readSwapped? s text = some (.finite d))
      (hroom : ¬q.HasRoom d)

/-- The check of a text breaks off for the number that was read from it, or for a signaling value. -/
theorem breaksOff_isProper_iff (hq : q.IsDecimal) :
    BreaksOff .malformed (q.isProper s text r) ↔
      (∃ d, r = .finite d ∧ ¬q.HasRoom d) ∨ ∃ negative payload, r = .nan negative true payload := by
  cases r with
  | finite d =>
    unfold isProper
    dsimp only
    rcases properText_cases hq s d with ⟨hroom, ⟨proper, hok⟩ | ⟨digits, hlong⟩⟩ | ⟨hroom, hfault | hfault⟩
    · simp [hok, hroom]
    · simp [hlong, hroom]
    · simp [hfault, hroom]
    · simp [hfault, hroom]
  | infinite negative => simp [isProper]
  | nan negative signaling payload => cases signaling <;> simp [isProper]

/-- Making up a suggestion breaks off for the number that may have been meant. -/
theorem improperFault_ne_malformed_iff (hq : q.IsDecimal) :
    q.improperFault s text ≠ .malformed ↔
      ∃ d, readSwapped? s text = some (.finite d) ∧ ¬q.HasRoom d := by
  unfold improperFault
  split
  · next d hswapped =>
    rcases properText_cases hq s d with ⟨hroom, ⟨proper, hok⟩ | ⟨digits, hlong⟩⟩ | ⟨hroom, hfault | hfault⟩
    · simp [hok, hswapped, hroom]
    · simp [hlong, hswapped, hroom]
    · simp [hfault, hswapped, hroom]
    · simp [hfault, hswapped, hroom]
  · next hother =>
    simp only [ne_eq, not_true_eq_false, false_iff]
    rintro ⟨d, hswapped, -⟩
    exact hother d hswapped

/-- Strict reading breaks off only where there are separators to be checked. -/
theorem breaksOff_readStrict_iff (hq : q.IsDecimal) :
    BreaksOff .malformed (q.readStrict s text) ↔ s.group ∈ text.toList ∧ q.Uncheckable s text := by
  rw [readStrict_eq]
  cases hread : reading? s text with
  | none =>
    refine iff_of_false (by simp) ?_
    rintro ⟨-, hbreak⟩
    cases hbreak <;> simp_all
  | some r =>
    dsimp only
    by_cases hgroup : s.group ∈ text.toList
    swap
    · simp [hgroup]
    rw [if_pos hgroup, breaksOff_bind, breaksOff_isProper_iff hq, and_iff_right hgroup]
    constructor
    · rintro ((⟨d, rfl, hroom⟩ | ⟨negative, payload, rfl⟩) | ⟨proper, hproper, hbreak⟩)
      · exact .large hread hroom
      · exact .signaling hread
      · cases proper with
        | true => simp at hbreak
        | false =>
          obtain ⟨d, hswapped, hroom⟩ := (improperFault_ne_malformed_iff hq).1 (breaksOff_error.1 hbreak)
          exact .suggestion hread hproper hswapped hroom
    · intro hbreak
      cases hbreak with
      | signaling hread' =>
        rw [hread] at hread'
        exact .inl (.inr ⟨_, _, Option.some.inj hread'⟩)
      | large hread' hroom =>
        rw [hread] at hread'
        exact .inl (.inl ⟨_, Option.some.inj hread', hroom⟩)
      | suggestion hread' hproper hswapped hroom =>
        rw [hread] at hread'
        cases hread'
        refine .inr ⟨false, hproper, ?_⟩
        rw [if_neg Bool.false_ne_true, breaksOff_error, improperFault_ne_malformed_iff hq]
        exact ⟨_, hswapped, hroom⟩

end NumberPattern
end ReceiptTemplate
