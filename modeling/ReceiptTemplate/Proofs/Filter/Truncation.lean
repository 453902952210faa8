import ReceiptTemplate.Filter.Text
import ReceiptTemplate.Proofs.Decimal.Value
import ReceiptTemplate.Proofs.Text.IntegerText

/-!
# Truncation — how much of a text is kept, and which argument says so

`truncate` keeps a text that fits.  A longer one is cut to exactly the length that is asked for, the mark of
the cut included, and a cut text fits.

The length is that of the first argument that is an integer, with two exceptions: a number with a fraction is
taken for its whole part, where it should be passed over, and an integer that is written with too many digits
is passed over.
-/

namespace ReceiptTemplate

namespace Text

@[simp] theorem length_take (n : Nat) (s : String) : (take n s).length = min n s.length := by
  rw [take, String.length_ofList, List.length_take, String.length_toList]

end Text

namespace Filter

open Text (Spells strip maxIntegerDigits)

/-! ## Cutting -/

/-- The text cut to a length: it stays if it fits, and otherwise its head or its tail is kept as far as the
mark leaves room. -/
structure IsCut (s : String) (length : Nat) (mark : String) (fromEnd : Bool) (r : String) : Prop where
  length_eq : r.length = min s.length length
  fits : s.length ≤ length → r = s
  mark_only : length < s.length → length ≤ mark.length → r = Text.take length mark
  head : length < s.length → mark.length < length → fromEnd = false →
    r = Text.take (length - mark.length) s ++ mark
  tail : length < s.length → mark.length < length → fromEnd = true →
    ∃ dropped kept, s = dropped ++ kept ∧ kept.length = length - mark.length ∧ r = mark ++ kept

section Cut

variable {s mark : String} {length : Nat} (fromEnd : Bool)

theorem cutText_of_fits (h : s.length ≤ length) : cutText length mark fromEnd s = s :=
  if_pos (by rwa [String.length_toList])

variable (hlong : length < s.length)

include hlong

theorem cutText_of_le (hmark : length ≤ mark.length) : cutText length mark fromEnd s = Text.take length mark := by
  simp only [cutText, String.length_toList]
  rw [if_neg (Nat.not_le.2 hlong), if_pos hmark]
  rfl

theorem cutText_head (hmark : mark.length < length) :
    cutText length mark false s = Text.take (length - mark.length) s ++ mark := by
  simp only [cutText, String.length_toList]
  rw [if_neg (Nat.not_le.2 hlong), if_neg (Nat.not_le.2 hmark), if_neg Bool.false_ne_true, String.ofList_append,
    String.ofList_toList]
  rfl

theorem cutText_tail (hmark : mark.length < length) :
    ∃ dropped kept, s = dropped ++ kept ∧ kept.length = length - mark.length ∧
      cutText length mark true s = mark ++ kept := by
  -- What is dropped is all but the room that the mark leaves.
  let start := s.length - (length - mark.length)
  refine ⟨String.ofList (s.toList.take start), String.ofList (s.toList.drop start), ?_, ?_, ?_⟩
  · rw [← String.ofList_append, List.take_append_drop, String.ofList_toList]
  · rw [String.length_ofList, List.length_drop, String.length_toList]
    omega
  · simp only [cutText, String.length_toList]
    rw [if_neg (Nat.not_le.2 hlong), if_neg (Nat.not_le.2 hmark), if_pos trivial, String.ofList_append,
      String.ofList_toList]

end Cut

theorem length_cutText (s : String) (length : Nat) (mark : String) (fromEnd : Bool) :
    (cutText length mark fromEnd s).length = min s.length length := by
  by_cases hlong : length < s.length
  · by_cases hmark : mark.length < length
    · cases fromEnd with
      | false =>
        rw [cutText_head hlong hmark, String.length_append, Text.length_take]
        omega
      | true =>
        obtain ⟨dropped, kept, -, hkept, hcut⟩ := cutText_tail hlong hmark
        rw [hcut, String.length_append, hkept]
        omega
    · rw [cutText_of_le fromEnd hlong (Nat.not_lt.1 hmark), Text.length_take]
      omega
  · rw [cutText_of_fits fromEnd (Nat.not_lt.1 hlong)]
    omega

/-- A cut text fits. -/
theorem cutText_cutText (s : String) (length : Nat) (mark : String) (fromEnd : Bool) :
    cutText length mark fromEnd (cutText length mark fromEnd s) = cutText length mark fromEnd s := by
  apply cutText_of_fits
  rw [length_cutText]
  exact Nat.min_le_right _ _

theorem isCut_cutText (s : String) (length : Nat) (mark : String) (fromEnd : Bool) :
    IsCut s length mark fromEnd (cutText length mark fromEnd s) where
  length_eq := length_cutText s length mark fromEnd
  fits := cutText_of_fits fromEnd
  mark_only := cutText_of_le fromEnd
  head hlong hmark := by
    rintro rfl
    exact cutText_head hlong hmark
  tail hlong hmark := by
    rintro rfl
    exact cutText_tail hlong hmark

/-! ## The first argument that gives a length -/

/-- The number that the first of the values gives to which `Gives` assigns one, or else `standard`. -/
inductive FirstOf (Gives : Value → Int → Prop) (standard : Int) : List Value → Int → Prop
  | given {v : Value} {vs : List Value} {n : Int} (h : Gives v n) : FirstOf Gives standard (v :: vs) n
  | skipped {v : Value} {vs : List Value} {n : Int} (h : ∀ m, ¬Gives v m) (hrest : FirstOf Gives standard vs n) :
      FirstOf Gives standard (v :: vs) n
  | standard : FirstOf Gives standard [] standard

/-- The values that are looked at until one gives a number. -/
inductive Consulted (Gives : Value → Int → Prop) : List Value → Value → Prop
  | first (v : Value) (vs : List Value) : Consulted Gives (v :: vs) v
  | next {v u : Value} {vs : List Value} (h : ∀ m, ¬Gives v m) (hrest : Consulted Gives vs u) :
      Consulted Gives (v :: vs) u

section First

variable {Gives Takes : Value → Int → Prop} {standard n : Int} {v : Value} {vs : List Value}

theorem firstOf_nil : FirstOf Gives standard [] n ↔ n = standard := by
  constructor
  · rintro ⟨⟩
    rfl
  · rintro rfl
    exact .standard

theorem firstOf_cons :
    FirstOf Gives standard (v :: vs) n ↔ Gives v n ∨ (∀ m, ¬Gives v m) ∧ FirstOf Gives standard vs n := by
  constructor
  · rintro (hgives | ⟨hnone, hrest⟩)
    · exact .inl hgives
    · exact .inr ⟨hnone, hrest⟩
  · rintro (hgives | ⟨hnone, hrest⟩)
    · exact .given hgives
    · exact .skipped hnone hrest

/-- The first number depends on the values that are looked at only. -/
theorem firstOf_congr (h : ∀ u, Consulted Gives vs u → ∀ m, Gives u m ↔ Takes u m) :
    FirstOf Gives standard vs n ↔ FirstOf Takes standard vs n := by
  induction vs with
  | nil => rw [firstOf_nil, firstOf_nil]
  | cons v vs ih =>
    have hv := h v (.first v vs)
    have hnone : (∀ m, ¬Gives v m) ↔ ∀ m, ¬Takes v m := forall_congr' fun m => not_congr (hv m)
    rw [firstOf_cons, firstOf_cons, hv, hnone]
    -- The values after this one are looked at only where it gives no number.
    refine or_congr_right (and_congr_right fun hskip => ih ?_)
    intro u hu
    exact h u (.next (hnone.2 hskip) hu)

/-- Where a value gives at most one number, the first one is found by a search. -/
theorem firstOf_iff_findSome? {f : Value → Option Int} (h : ∀ v m, Takes v m ↔ f v = some m) :
    FirstOf Takes standard vs n ↔ n = (vs.findSome? f).getD standard := by
  induction vs with
  | nil => exact firstOf_nil
  | cons v vs ih =>
    rw [firstOf_cons, ih, List.findSome?_cons]
    simp only [h]
    cases f v with
    | none => simp
    | some m => simp [eq_comm]

end First

/-! ## Integers among the arguments -/

/-- The integer that an argument is: a number without a fraction, or a text that spells it. -/
inductive IsInteger : Value → Int → Prop
  | number {d : Decimal} {n : Int} (h : d.toRat = n) : IsInteger (.number d) n
  | text {s : String} {digits : List Char} {n : Int} (h : Spells (strip s).toList digits n) :
      IsInteger (.text s) n

/-- The integer that an argument is taken for: a number without its fraction, or what a text spells with not
too many digits. -/
inductive TakenFor : Value → Int → Prop
  | number (d : Decimal) : TakenFor (.number d) (wholePart d.toRat)
  | text {s : String} {digits : List Char} {n : Int} (h : Spells (strip s).toList digits n)
      (hlength : digits.length ≤ maxIntegerDigits) : TakenFor (.text s) n

/-- The arguments that are not taken for what they are. -/
inductive Mistaken : Value → Prop
  | fraction {d : Decimal} (h : ∀ n : Int, d.toRat ≠ n) : Mistaken (.number d)
  | long {s : String} {digits : List Char} {n : Int} (h : Spells (strip s).toList digits n)
      (hlength : maxIntegerDigits < digits.length) : Mistaken (.text s)

theorem takenFor_iff (v : Value) (n : Int) : TakenFor v n ↔ integerArgument? (some v) = some n := by
  cases v with
  | number d =>
    rw [integerArgument?, Option.some.injEq, Decimal.whole_eq]
    constructor
    · rintro ⟨⟩
      rfl
    · rintro rfl
      exact .number d
  | text s =>
    rw [integerArgument?, Text.readInteger?_strip_eq_some_iff]
    constructor
    · rintro (_ | ⟨hspells, hlength⟩)
      exact ⟨_, hspells, hlength⟩
    · rintro ⟨digits, hspells, hlength⟩
      exact .text hspells hlength
  | null | bool | array | object => constructor <;> (intro h; cases h)

theorem isInteger_iff_takenFor {v : Value} (h : ¬Mistaken v) (n : Int) : IsInteger v n ↔ TakenFor v n := by
  constructor
  · intro hn
    cases hn with
    | @number d _ hvalue =>
      have htaken := TakenFor.number d
      rwa [hvalue, wholePart_intCast] at htaken
    | text hspells => exact .text hspells (Nat.not_lt.1 fun hlength => h (.long hspells hlength))
  · intro hn
    cases hn with
    | number d =>
      -- Without a fraction the whole part is the number.
      obtain ⟨m, hm⟩ : ∃ m : Int, d.toRat = m := by
        by_contra hfraction
        exact h (.fraction (not_exists.1 hfraction))
      rw [hm, wholePart_intCast]
      exact .number hm
    | text hspells _ => exact .text hspells

/-- The arguments that are taken for what they are are all but the mistaken ones. -/
theorem mistaken_iff (v : Value) : Mistaken v ↔ ∃ n, ¬(IsInteger v n ↔ TakenFor v n) := by
  constructor
  · intro h
    cases h with
    | @fraction d hfraction =>
      refine ⟨wholePart d.toRat, fun hsame => ?_⟩
      have hinteger := hsame.2 (.number d)
      generalize wholePart d.toRat = n at hinteger
      cases hinteger with
      | number hvalue => exact hfraction _ hvalue
    | @long s digits n hspells hlength =>
      refine ⟨n, fun hsame => ?_⟩
      -- The digits of a text are unique, so that no shorter ones spell the number.
      cases hsame.1 (.text hspells) with
      | text hspells' hlength' =>
        rw [hspells.digits_unique hspells'] at hlength
        omega
  · rintro ⟨n, hn⟩
    by_contra hsound
    exact hn (isInteger_iff_takenFor hsound n)

/-! ## Truncation -/

/-- The arguments that may give the length, in the order in which they are looked at. -/
def lengthArguments (args : FilterArguments) : List Value :=
  (args.value? "length").toList ++ args.positional.toList

/-- What truncation makes of a value: an array or an object stays, and of any other value the text is cut. -/
def Truncated (length : Nat) (mark : String) (fromEnd : Bool) : Value → Value → Prop
  | .array items, w => w = .array items
  | .object entries, w => w = .object entries
  | v, w => ∃ r, w = .text r ∧ IsCut v.toText length mark fromEnd r

section Truncate

variable (args : FilterArguments)

theorem findSome?_lengthArguments :
    (lengthArguments args).findSome? (fun v => integerArgument? (some v))
      = (integerArgument? (args.value? "length")).or (integerArgument? args.positional) := by
  have hone (o : Option Value) : o.toList.findSome? (fun v => integerArgument? (some v)) = integerArgument? o := by
    cases o with
    | none => rfl
    | some v => exact List.findSome?_singleton
  rw [lengthArguments, List.findSome?_append, hone, hone]

theorem clamp_eq (high : Nat) (n : Int) : clamp high n = (max 0 (min (high : Int) n)).toNat := by
  simp only [clamp]
  omega

/-- The length is the first number that an argument is taken for, or the standard one, within bounds. -/
theorem exists_truncateLength_eq :
    ∃ n, (∀ m, FirstOf TakenFor 50 (lengthArguments args) m ↔ m = n) ∧
      truncateLength args = (max 0 (min 10000 n)).toNat := by
  refine ⟨_, fun m => firstOf_iff_findSome? takenFor_iff, ?_⟩
  rw [findSome?_lengthArguments]
  exact clamp_eq maxTruncateLength _

theorem exists_truncate_eq (v : Value) (l : Locale) :
    ∃ w, truncate v args l = .ok w ∧ truncate w args l = .ok w ∧
      Truncated (truncateLength args) (truncateSuffix args) (args.hasFlag "fromEnd") v w := by
  let cut := cutText (truncateLength args) (truncateSuffix args) (args.hasFlag "fromEnd")
  have hagain (s : String) : truncate (.text (cut s)) args l = .ok (.text (cut s)) := by
    have hcut : cut (cut s) = cut s := cutText_cutText s _ _ _
    show Except.ok (Value.text (cut (cut s))) = .ok (.text (cut s))
    rw [hcut]
  cases v with
  | array items => exact ⟨_, rfl, rfl, rfl⟩
  | object entries => exact ⟨_, rfl, rfl, rfl⟩
  | null | bool | number | text => exact ⟨_, rfl, hagain _, _, rfl, isCut_cutText _ _ _ _⟩

/-- Truncation keeps what fits.  The length is that of the first argument that is an integer, unless one that
is looked at is a number with a fraction or is spelled with too many digits. -/
theorem truncate_keeps (v : Value) (args : FilterArguments) (l : Locale) :
    ∃ n w, (∀ m, FirstOf TakenFor 50 (lengthArguments args) m ↔ m = n) ∧
      ((∀ u, Consulted IsInteger (lengthArguments args) u → ¬Mistaken u) →
        ∀ m, FirstOf IsInteger 50 (lengthArguments args) m ↔ m = n) ∧
      truncate v args l = .ok w ∧ truncate w args l = .ok w ∧
      Truncated (max 0 (min 10000 n)).toNat
        (Text.take 100 (((args.value? "suffix").map Value.toText).getD "..."))
        (args.hasFlag "fromEnd") v w := by
  obtain ⟨n, hn, hlength⟩ := exists_truncateLength_eq args
  obtain ⟨w, hw, hagain, hcut⟩ := exists_truncate_eq args v l
  rw [hlength] at hcut
  refine ⟨n, w, hn, ?_, hw, hagain, hcut⟩
  intro hsound m
  rw [← hn]
  exact firstOf_congr fun u hu => isInteger_iff_takenFor (hsound u hu)

/-- The length 6.7 is no integer, and it is cut to 6 where 8 comes next. -/
example (l : Locale) :
    truncate (.text "Hello, World!")
        ⟨some (.number ⟨false, 8, 0⟩), [("length", some (.number ⟨false, 67, -1⟩))]⟩ l
      = .ok (.text "Hel...") := rfl

end Truncate

end Filter
end ReceiptTemplate
