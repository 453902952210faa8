import ReceiptTemplate.Context.Reference
import ReceiptTemplate.Proofs.Expr.PathText

/-!
# Walking data — path texts and computed keys

The text of a path is cut into segments and each of them makes one step; a computed key looks into
one value.  The two are written apart, and this module shows that they walk alike: a path over names and
indexes gives what its names and indexes give as keys, one after the other.  `Leads` tells what
both of them reach, by parts that are really there.
-/

namespace ReceiptTemplate

/-! ## Paths over segments -/

namespace Segment

def chars : Segment → List Char
  | .name s => '.' :: s.toList
  | .index n => '[' :: (Text.digitsOf n ++ [']'])

/-- The segments that a path can be written with. -/
def Writable : Segment → Prop
  | .name s => s ≠ "" ∧ ∀ c ∈ s.toList, Path.isNameChar c = true
  | .index n => n ≤ Path.maxIndex

instance (s : Segment) : Decidable s.Writable :=
  match s with
  | .name s => decidable_of_iff (s ≠ "" ∧ s.toList.all Path.isNameChar) (by rw [List.all_eq_true, Writable])
  | .index n => inferInstanceAs (Decidable (n ≤ Path.maxIndex))

/-- The segment as a computed key. -/
def asKey : Segment → Value
  | .name s => .text s
  | .index n => .number (.ofNat n)

/-- Only names are looked up whatever their case. -/
def ignoresCase : Segment → Bool
  | .name _ => true
  | .index _ => false

end Segment

namespace Path

/-- The text of a path that starts with a name. -/
def textOf (first : String) (rest : List Segment) : String :=
  first ++ String.ofList (rest.flatMap Segment.chars)

variable {first : String} {rest : List Segment}

theorem toList_textOf (first : String) (rest : List Segment) :
    (textOf first rest).toList = first.toList ++ rest.flatMap Segment.chars := by
  rw [textOf, String.toList_append, String.toList_ofList]

theorem not_isNameChar_head_segment (s : Segment) : ∃ c ∈ s.chars.head?, isNameChar c = false := by
  cases s with
  | name s => exact ⟨'.', rfl, by decide⟩
  | index n => exact ⟨'[', rfl, by decide⟩

theorem toList_ne_nil {s : String} (h : s ≠ "") : s.toList ≠ [] :=
  fun hnil => h (String.toList_inj.1 hnil)

theorem splitFrom_segment {s : Segment} (h : s.Writable) {rest : List Char}
    (hrest : ∀ c ∈ rest.head?, isNameChar c = false) :
    splitFrom (s.chars ++ rest) = (splitFrom rest).map (s :: ·) := by
  cases s with
  | name s =>
    have hread := splitFrom_name (toList_ne_nil h.1) h.2 hrest
    rwa [String.ofList_toList] at hread
  | index n =>
    have hvalue := Text.readDigits_digitsOf n
    have hread := splitFrom_index (Text.digitsOf_ne_nil n)
      (fun d hd => Text.isDecimalDigit_of_mem_digitsOf hd) (hvalue.symm ▸ h) rest
    rw [hvalue] at hread
    simpa [Segment.chars] using hread

/-- A path text is cut into the segments that it was written with. -/
theorem split_textOf (hfirst : (Segment.name first).Writable) (hrest : ∀ s ∈ rest, s.Writable)
    (hlength : (textOf first rest).length ≤ maxLength) :
    split (textOf first rest) = .ok (.name first :: rest) := by
  have hsplit := @splitFrom_parts _ _ id [] not_isNameChar_head_segment nofun _
    (toList_ne_nil hfirst.1) hfirst.2 rest fun s hs _ hrest' => splitFrom_segment (hrest s hs) hrest'
  rw [splitFrom, List.append_nil, ← toList_textOf, String.ofList_toList, List.map_id] at hsplit
  apply split_of_splitFrom
  · rwa [String.length_toList]
  · rw [hsplit]
    exact congrArg Except.ok (List.append_nil _)

end Path

namespace Value

variable {v w : Value} {s : Segment} {segments : List Segment}

/-! ## Steps and computed keys -/

theorem toText_ofNat (n : Nat) : (number (.ofNat n)).toText = Text.integerText n := by
  have hdigits : Decimal.plainChars (.ofNat n) = Text.digitsOf n := by
    by_cases hn : n = 0
    · subst hn
      decide
    · simp [Decimal.plainChars, Decimal.ofNat, hn]
  simp [toText, Decimal.plain, Decimal.isBelowZero, hdigits, Text.integerText]
  rfl

theorem element?_ofNat (items : List Value) (n : Nat) :
    element? items (.number (.ofNat n)) = items[n]? := by
  have hpos : 0 < (Text.digitsOf n).length := List.length_pos_of_ne_nil (Text.digitsOf_ne_nil n)
  have hadjusted : ¬(Decimal.ofNat n).adjusted < 0 := by
    simp only [Decimal.adjusted, Decimal.ofNat, Decimal.digitCount]
    omega
  have hwhole : (Decimal.ofNat n).wholeAbs = n := by
    rw [Decimal.wholeAbs, if_neg hadjusted]
    simp [Decimal.ofNat]
  rw [element?, hwhole]
  rfl

/-- A segment makes the step that it makes as a computed key. -/
theorem atKey_asKey (v : Value) (s : Segment) : v.atKey s.asKey s.ignoresCase = v.step s := by
  cases v with
  | null | bool b | number d | text t => cases s <;> rfl
  | array items =>
    cases s with
    | name name => rfl
    | index n => exact congrArg orNull (element?_ofNat items n)
  | object entries =>
    cases s with
    | name name => rfl
    | index n =>
      have hkey : keyedProperty? entries (Segment.index n).asKey false
          = exactProperty? entries (Text.integerText n) :=
        congrArg (exactProperty? entries) (toText_ofNat n)
      exact congrArg orNull hkey

/-- The property with a name, whatever its case; null if there is none. -/
def member (v : Value) (name : String) : Value :=
  match v with
  | .object entries => orNull (property? entries name)
  | _ => .null

/-- The segments as computed keys, one after the other. -/
def follow (v : Value) (segments : List Segment) : Value :=
  segments.foldl (fun w s => w.atKey s.asKey s.ignoresCase) v

theorem follow_eq_walk (v : Value) (segments : List Segment) : v.follow segments = v.walk segments := by
  simp only [follow, atKey_asKey]
  rfl

theorem walk_cons (v : Value) (s : Segment) (segments : List Segment) :
    v.walk (s :: segments) = (v.step s).walk segments :=
  List.foldl_cons ..

theorem walk_append (v : Value) (before after : List Segment) :
    v.walk (before ++ after) = (v.walk before).walk after :=
  List.foldl_append

theorem step_name (v : Value) (name : String) : v.step (.name name) = v.member name := by
  cases v <;> rfl

/-! ## What is reached -/

/-- The part of a value that a segment selects.  An element is selected by an index below the number of
elements only. -/
inductive Selects : Value → Segment → Value → Prop where
  | property {entries : Entries Value} {name : String} {w : Value}
      (h : property? entries name = some w) : Selects (.object entries) (.name name) w
  | digits {entries : Entries Value} {n : Nat} {w : Value}
      (h : exactProperty? entries (Text.integerText n) = some w) :
      Selects (.object entries) (.index n) w
  | element {items : List Value} {n : Nat} (h : n < items.length) :
      Selects (.array items) (.index n) items[n]

/-- The part that the segments select one after the other. -/
inductive Leads : Value → List Segment → Value → Prop where
  | here (v : Value) : Leads v [] v
  | step {v w u : Value} {s : Segment} {segments : List Segment} (hs : Selects v s w)
      (h : Leads w segments u) : Leads v (s :: segments) u

theorem Selects.step_eq (h : Selects v s w) : v.step s = w := by
  cases h with
  | property h => simp [Value.step, h, orNull]
  | digits h => simp [Value.step, h, orNull]
  | element h => simp [Value.step, h, orNull]

/-- A step takes what is selected, or it misses. -/
theorem selects_or_step_eq_null (v : Value) (s : Segment) : Selects v s (v.step s) ∨
    v.step s = .null ∧ ∀ w, ¬Selects v s w := by
  cases v with
  | null | bool b | number d | text t =>
    refine .inr ⟨by cases s <;> rfl, ?_⟩
    rintro w ⟨⟩
  | array items =>
    cases s with
    | name name =>
      refine .inr ⟨rfl, ?_⟩
      rintro w ⟨⟩
    | index n =>
      by_cases hn : n < items.length
      · have hselects := Selects.element hn
        rw [← hselects.step_eq] at hselects
        exact .inl hselects
      · refine .inr ⟨by simp [Value.step, orNull, hn], ?_⟩
        rintro w ⟨⟩
        contradiction
  | object entries =>
    cases s with
    | name name =>
      cases h : property? entries name with
      | some w =>
        have hselects := Selects.property h
        rw [← hselects.step_eq] at hselects
        exact .inl hselects
      | none =>
        refine .inr ⟨by simp [Value.step, orNull, h], ?_⟩
        rintro w ⟨hw⟩
        exact absurd (h.symm.trans hw) (by simp)
    | index n =>
      cases h : exactProperty? entries (Text.integerText n) with
      | some w =>
        have hselects := Selects.digits h
        rw [← hselects.step_eq] at hselects
        exact .inl hselects
      | none =>
        refine .inr ⟨by simp [Value.step, orNull, h], ?_⟩
        intro w hw
        cases hw with
        | digits hw => exact absurd (h.symm.trans hw) (by simp)

/-- A walk ends at what its segments lead to, and at null if some segment on the way selects nothing. -/
theorem leads_or_walk_eq_null (v : Value) (segments : List Segment) :
    Leads v segments (v.walk segments) ∨ v.walk segments = .null ∧ ∀ w, ¬Leads v segments w := by
  induction segments generalizing v with
  | nil => exact .inl (.here v)
  | cons s segments ih =>
    rw [walk_cons]
    rcases selects_or_step_eq_null v s with hs | ⟨hnull, hmiss⟩
    · rcases ih (v.step s) with h | ⟨hnull, hmiss⟩
      · exact .inl (.step hs h)
      · refine .inr ⟨hnull, ?_⟩
        rintro w (_ | ⟨hs', h⟩)
        rw [← hs'.step_eq] at h
        exact hmiss w h
    · refine .inr ⟨by rw [hnull, walk_null], ?_⟩
      rintro w (_ | ⟨hs', h⟩)
      exact hmiss _ hs'

end Value

namespace Context

variable {first : String} {rest : List Segment}

theorem resolve_textOf (c : Context) (hfirst : (Segment.name first).Writable)
    (hloop : first.toList.head? ≠ some '@') (hrest : ∀ s ∈ rest, s.Writable)
    (hlength : (Path.textOf first rest).length ≤ Path.maxLength) :
    c.resolve (Path.textOf first rest) = .ok (c.current.walk (.name first :: rest)) := by
  have hsplit := Path.split_textOf hfirst hrest hlength
  obtain ⟨x, xs, hx⟩ := List.exists_cons_of_ne_nil (Path.toList_ne_nil hfirst.1)
  have hhead : (Path.textOf first rest).toList = x :: (xs ++ rest.flatMap Segment.chars) := by
    rw [Path.toList_textOf, hx, List.cons_append]
  have hdot : x ≠ '.' := by
    rintro rfl
    exact absurd (hfirst.2 '.' (by simp [hx])) (by decide)
  have hat : x ≠ '@' := by
    rintro rfl
    exact hloop (by rw [hx, List.head?_cons])
  rw [resolve, hhead]
  split <;> simp_all [Except.map]

/-- The two ways of walking data agree.  A path text gives what its first name and then its names and
indexes as computed keys give; both stay null from the first step that misses, and both end at what the
segments really lead to. -/
theorem resolve_eq_follow (c : Context) (hfirst : (Segment.name first).Writable)
    (hloop : first.toList.head? ≠ some '@') (hrest : ∀ s ∈ rest, s.Writable)
    (hlength : (Path.textOf first rest).length ≤ Path.maxLength) :
    c.resolve (Path.textOf first rest) = .ok ((c.current.member first).follow rest) ∧
      (∀ before after, rest = before ++ after → (c.current.member first).follow before = .null →
        c.resolve (Path.textOf first rest) = .ok .null ∧
          (c.current.member first).follow rest = .null) ∧
      (Value.Leads c.current (.name first :: rest) ((c.current.member first).follow rest) ∨
        (c.current.member first).follow rest = .null ∧
          ∀ w, ¬Value.Leads c.current (.name first :: rest) w) := by
  have hwalk : c.current.walk (.name first :: rest) = (c.current.member first).follow rest := by
    rw [Value.walk_cons, Value.step_name, Value.follow_eq_walk]
  have hresolve : c.resolve (Path.textOf first rest) = .ok ((c.current.member first).follow rest) := by
    rw [resolve_textOf c hfirst hloop hrest hlength, hwalk]
  refine ⟨hresolve, ?_, ?_⟩
  · rintro before after hsplit hnull
    have hrest : (c.current.member first).follow rest = .null := by
      rw [Value.follow_eq_walk] at hnull ⊢
      rw [hsplit, Value.walk_append, hnull, Value.walk_null]
    exact ⟨by rw [hresolve, hrest], hrest⟩
  · rw [← hwalk]
    exact Value.leads_or_walk_eq_null _ _

/-- Names are found whatever their case, and the property `0` of an object like an element. -/
theorem resolve_eq_follow_items :
    let price : Value := .number (.ofNat 3)
    let c := ofValue (.object [("Items", .array [.object [("0", .object [("price", price)])]])])
    let rest : List Segment := [.index 0, .index 0, .name "PRICE"]
    ((Segment.name "items").Writable ∧ "items".toList.head? ≠ some '@' ∧
        (∀ s ∈ rest, s.Writable) ∧ (Path.textOf "items" rest).length ≤ Path.maxLength) ∧
      Path.textOf "items" rest = "items[0][0].PRICE" ∧ c.resolve "items[0][0].PRICE" = .ok price := by
  intro price c rest
  have hwritable : (Segment.name "items").Writable ∧ "items".toList.head? ≠ some '@' ∧
      (∀ s ∈ rest, s.Writable) ∧ (Path.textOf "items" rest).length ≤ Path.maxLength := by
    decide
  have htext : Path.textOf "items" rest = "items[0][0].PRICE" := by
    decide
  have hstrip : Text.strip "items" = "items" ∧ Text.strip "PRICE" = "PRICE" := by decide
  have hfold : Text.fold "Items" = Text.fold "items" ∧ Text.fold "price" = Text.fold "PRICE" := by decide
  have hitems (v : Value) : (Value.object [("Items", v)]).member "items" = v := by
    simp [Value.member, Value.property?, Value.findFolded?, Entries.get?, hstrip, hfold, Value.orNull]
  have hprice : (Value.object [("price", price)]).member "PRICE" = price := by
    simp [Value.member, Value.property?, Value.findFolded?, Entries.get?, hstrip, hfold, Value.orNull]
  have hfollow : (c.current.member "items").follow rest = price := by
    calc (c.current.member "items").follow rest
        = (Value.array [.object [("0", .object [("price", price)])]]).follow rest :=
          congrArg (Value.follow · rest) (hitems _)
      _ = (Value.object [("price", price)]).member "PRICE" := rfl
      _ = price := hprice
  have hresolve := (resolve_eq_follow c hwritable.1 hwritable.2.1 hwritable.2.2.1 hwritable.2.2.2).1
  rw [htext, hfollow] at hresolve
  exact ⟨hwritable, htext, hresolve⟩

end Context
end ReceiptTemplate
