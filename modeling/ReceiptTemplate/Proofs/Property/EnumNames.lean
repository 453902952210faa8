import ReceiptTemplate.Proofs.Expr.OuterBlanks
import ReceiptTemplate.Proofs.Property.Materializing
import ReceiptTemplate.Proofs.Text.DigitKeys

/-!
# Names of members — what a text finds in an enumeration

A text of an enumeration gives the first member whose name differs from the stripped text by case only,
and is refused when there is none.  A member is therefore reached by its own name when there are no blanks
around that name and no member before it has a name that differs by case only; all members are reached
exactly when no name has blanks around it and no two names differ by case only.
-/

namespace ReceiptTemplate

/-! ## Folded texts -/

namespace Unicode

theorem foldForm_ne_nil (c : Char) : foldForm c ≠ [] := by
  have hexpansions : ∀ p ∈ foldExpansions, p.2 ≠ [] := by decide
  unfold foldForm caseForm
  split
  · exact List.cons_ne_nil _ _
  · split
    · exact List.cons_ne_nil _ _
    · split
      · next ns hlookup =>
        rw [Ne, List.map_eq_nil_iff]
        obtain ⟨before, after, hsplit, -⟩ := List.lookup_eq_some_iff.1 hlookup
        exact hexpansions (c.toNat, ns) (hsplit ▸ List.mem_append_right before List.mem_cons_self)
      · exact List.cons_ne_nil _ _

end Unicode

namespace Text

open Unicode (foldForm foldForm_ne_nil)

variable {s : String}

theorem length_le_length_flatMap_foldForm (cs : List Char) :
    cs.length ≤ (cs.flatMap foldForm).length := by
  induction cs with
  | nil => exact Nat.le_refl _
  | cons c cs ih =>
    have hc : 0 < (foldForm c).length := List.length_pos_iff.2 (foldForm_ne_nil c)
    rw [List.flatMap_cons, List.length_append, List.length_cons]
    omega

/-- A text that folds as it does when stripped has no blanks around it. -/
theorem strip_eq_of_fold_eq (h : fold s = fold (strip s)) : strip s = s := by
  obtain ⟨w, w', -, -, hsplit⟩ := Expr.exists_blanks_stripChars s.toList
  have hstrip : (strip s).toList = stripChars s.toList := String.toList_ofList
  have hforms := congrArg List.length (flatMap_foldForm_of_fold_eq h)
  rw [hstrip] at hforms
  generalize stripChars s.toList = core at hsplit hforms hstrip
  rw [hsplit] at hforms
  simp only [List.flatMap_append, List.length_append] at hforms
  -- Every blank has a form of its own, so that there are none.
  have hw : w = [] := by
    have hle := length_le_length_flatMap_foldForm w
    exact List.length_eq_zero_iff.1 (by omega)
  have hw' : w' = [] := by
    have hle := length_le_length_flatMap_foldForm w'
    exact List.length_eq_zero_iff.1 (by omega)
  rw [← String.toList_inj, hstrip, hsplit, hw, hw', List.nil_append, List.append_nil]

theorem strip_of_isAllBlank (h : isAllBlank s = true) : strip s = "" := by
  have hdrop : s.toList.dropWhile Unicode.isBlank = [] := by
    rw [List.dropWhile_eq_nil_iff]
    exact List.all_eq_true.1 h
  rw [strip, stripChars, stripWhile, hdrop]
  rfl

end Text

/-! ## Members -/

namespace EnumType

open Text (fold strip)

variable {t : EnumType} {m : EnumMember} {name : String}

/-- Leaving out aliases keeps the order of the other members. -/
theorem members_ofMembers_sublist (name : String) (ms : List EnumMember) :
    (ofMembers name ms).members.Sublist ms := by
  suffices hkept : ∀ kept seen : List EnumMember, kept.reverse.Sublist seen →
      (ms.foldl (fun acc m =>
        if acc.any fun a => a.value.sameKey m.value then acc else m :: acc) kept).reverse.Sublist
          (seen ++ ms) from
    hkept [] [] (List.Sublist.refl _)
  induction ms with
  | nil =>
    intro kept seen h
    rwa [List.append_nil]
  | cons m ms ih =>
    intro kept seen h
    rw [List.append_cons, List.foldl_cons]
    apply ih
    split
    · exact h.trans (List.sublist_append_left seen [m])
    · rw [List.reverse_cons]
      exact h.append_right [m]

/-- Names as every enumeration has them: none is empty, and no two are the same. -/
structure WellNamed (t : EnumType) : Prop where
  nonempty : ∀ m ∈ t.members, m.name ≠ ""
  distinct : (t.members.map (·.name)).Nodup

/-- Aliases have names of their own, so that no name is lost or doubled without them. -/
theorem wellNamed_ofMembers {ms : List EnumMember} (hnonempty : ∀ m ∈ ms, m.name ≠ "")
    (hdistinct : (ms.map (·.name)).Nodup) : (ofMembers name ms).WellNamed :=
  have hsublist := members_ofMembers_sublist name ms
  { nonempty := fun m hm => hnonempty m (hsublist.subset hm)
    distinct := hdistinct.sublist (hsublist.map _) }

/-- The first member with a name, whatever its case. -/
def FirstNamed (t : EnumType) (name : String) (m : EnumMember) : Prop :=
  ∃ before after, t.members = before ++ m :: after ∧ fold m.name = fold name ∧
    ∀ a ∈ before, fold a.name ≠ fold name

theorem find?_eq_some_iff : t.find? name = some m ↔ t.FirstNamed name m := by
  unfold find? FirstNamed
  rw [List.find?_eq_some_iff_append]
  simp only [beq_iff_eq, Bool.not_eq_true', beq_eq_false_iff_ne]
  constructor
  · rintro ⟨hname, before, after, hsplit, hbefore⟩
    exact ⟨before, after, hsplit, hname, hbefore⟩
  · rintro ⟨before, after, hsplit, hname, hbefore⟩
    exact ⟨hname, before, after, hsplit, hbefore⟩

theorem find?_eq_none_iff : t.find? name = none ↔ ∀ m ∈ t.members, fold m.name ≠ fold name := by
  unfold find?
  rw [List.find?_eq_none]
  simp only [beq_iff_eq]

theorem FirstNamed.mem (h : t.FirstNamed name m) : m ∈ t.members := by
  obtain ⟨before, after, hsplit, -⟩ := h
  rw [hsplit]
  exact List.mem_append_right before List.mem_cons_self

theorem FirstNamed.fold_eq (h : t.FirstNamed name m) : fold m.name = fold name := by
  obtain ⟨before, after, -, hname, -⟩ := h
  exact hname

/-- Blank text names no member. -/
theorem WellNamed.find?_of_isAllBlank (h : t.WellNamed) {raw : String}
    (hblank : Text.isAllBlank raw = true) : t.find? (strip raw) = none := by
  rw [find?_eq_none_iff, Text.strip_of_isAllBlank hblank]
  intro m hm hfold
  exact h.nonempty m hm (Text.eq_of_fold_eq (by simp) hfold)

/-- A member is found by its own name, stripped, when that is the name and comes first. -/
theorem firstNamed_strip_iff :
    t.FirstNamed (strip m.name) m ↔ strip m.name = m.name ∧ t.FirstNamed m.name m := by
  constructor
  · intro h
    have hstrip : strip m.name = m.name := Text.strip_eq_of_fold_eq h.fold_eq
    rw [hstrip] at h
    exact ⟨hstrip, h⟩
  · rintro ⟨hstrip, h⟩
    rwa [hstrip]

/-- Every member comes first under its own name exactly when no two names differ by case only. -/
theorem WellNamed.forall_firstNamed_iff (h : t.WellNamed) :
    (∀ m ∈ t.members, t.FirstNamed m.name m) ↔ (t.members.map fun m => fold m.name).Nodup := by
  simp only [← find?_eq_some_iff]
  constructor
  · intro hfirst
    refine (List.Nodup.of_map _ h.distinct).map_on ?_
    intro m hm m' hm' hfold
    have hfound : t.find? m.name = t.find? m'.name := by rw [find?, find?, hfold]
    rw [hfirst m hm, hfirst m' hm'] at hfound
    exact Option.some.inj hfound
  · intro hnodup m hm
    cases hfind : t.find? m.name with
    | none => exact absurd rfl (find?_eq_none_iff.1 hfind m hm)
    | some m' =>
      have hm' := find?_eq_some_iff.1 hfind
      rw [List.inj_on_of_nodup_map hnodup hm'.mem hm hm'.fold_eq]

end EnumType

/-! ## Properties -/

namespace Property

open Text (fold strip)

variable {p : Property} {t : EnumType} {raw : String} {locale : Option String} {l : Option Locale}

@[simp] theorem raw?_ofRaw (raw : String) (shape : Shape) : (ofRaw raw shape).raw? = some raw := by
  unfold ofRaw
  split <;> rfl

/-- The value of a text of an enumeration. -/
theorem read_enum (hkind : p.shape.kind = .enum t) (hnames : t.WellNamed) (property raw : String)
    (l : Option Locale) :
    read p.shape property raw l =
      match t.find? (strip raw) with
      | some m => .ok (.member t.name m)
      | none =>
        if Text.isAllBlank raw then
          if p.shape.isOptional then .ok .absent else .error (.empty property p.shape raw)
        else .error (.mismatch property p.shape raw) := by
  cases hblank : Text.isAllBlank raw with
  | true =>
    rw [hnames.find?_of_isAllBlank hblank]
    unfold read
    rw [if_pos hblank, hkind]
    rfl
  | false =>
    rw [read_of_not_blank hblank, hkind, Shape.read, Shape.readMember]
    cases t.find? (strip raw) <;> rfl

/-- Text of an enumeration gives its first member with that name, unless the text may be blank. -/
theorem read_enum_eq_ok_iff (hkind : p.shape.kind = .enum t) (hnames : t.WellNamed) {property : String}
    {v : TypedValue} :
    read p.shape property raw l = .ok v ↔
      (v = .absent ∧ p.shape.isOptional = true ∧ Text.isAllBlank raw = true) ∨
        ∃ m, t.FirstNamed (strip raw) m ∧ v = .member t.name m := by
  simp only [read_enum hkind hnames, ← EnumType.find?_eq_some_iff]
  cases hfind : t.find? (strip raw) with
  | some m =>
    have hblank : Text.isAllBlank raw = false := by
      refine Bool.eq_false_iff.2 fun hblank => ?_
      rw [hnames.find?_of_isAllBlank hblank] at hfind
      cases hfind
    simp only [hblank, Bool.false_eq_true, and_false, false_or, Option.some.injEq, exists_eq_left',
      Except.ok.injEq]
    exact eq_comm
  | none =>
    cases Text.isAllBlank raw <;> cases p.shape.isOptional <;> simp [eq_comm]

/-- Text of an enumeration is refused when it names no member, unless it may be blank. -/
theorem read_enum_eq_error_iff (hkind : p.shape.kind = .enum t) (hnames : t.WellNamed)
    {property : String} {fault : PropertyFault} :
    read p.shape property raw l = .error fault ↔
      ¬(p.shape.isOptional = true ∧ Text.isAllBlank raw = true) ∧
        (∀ m ∈ t.members, fold m.name ≠ fold (strip raw)) ∧
        fault = if Text.isAllBlank raw then .empty property p.shape raw
          else .mismatch property p.shape raw := by
  rw [read_enum hkind hnames, ← EnumType.find?_eq_none_iff]
  cases t.find? (strip raw) with
  | some m => simp
  | none => cases Text.isAllBlank raw <;> cases p.shape.isOptional <;> simp [eq_comm]

/-- What a text of an enumeration gives, and which members their own names give.  In a known notation
the text gives the first member whose name is the stripped text but for case; blank text gives nothing
where it may be left out, and any other text is refused with its own fault.  So a member is given by its
name when there are no blanks around it and no member before has a name that differs by case only. -/
theorem member_of_materialize (hnames : t.WellNamed) (hlocale : readingLocale locale = .ok l)
    (isOptional : Bool) (property : String) (kind : PropertyKind) :
    let shape : Shape := ⟨.enum t, isOptional⟩
    let result (p : Property) := p.materialize property kind locale
    let Reached (m : EnumMember) := ∃ q, result (.ofRaw m.name shape) = .ok (.member t.name m, q)
    (∀ (p : Property) (raw : String), p.shape = shape → p.raw? = some raw →
      (∀ v q, result p = .ok (v, q) ↔ q = { p with state := .literal v } ∧
        ((v = .absent ∧ isOptional = true ∧ Text.isAllBlank raw = true) ∨
          ∃ m, t.FirstNamed (strip raw) m ∧ v = .member t.name m)) ∧
      ∀ fault, result p = .error fault ↔ ¬(isOptional = true ∧ Text.isAllBlank raw = true) ∧
        (∀ m ∈ t.members, fold m.name ≠ fold (strip raw)) ∧
        fault = if Text.isAllBlank raw then .empty property shape raw
          else .mismatch property shape raw) ∧
    (∀ m, Reached m ↔ strip m.name = m.name ∧ t.FirstNamed m.name m) ∧
    ((∀ m ∈ t.members, Reached m) ↔
      (∀ m ∈ t.members, strip m.name = m.name) ∧ (t.members.map fun m => fold m.name).Nodup) := by
  intro shape result Reached
  have hreached (m : EnumMember) : Reached m ↔ strip m.name = m.name ∧ t.FirstNamed m.name m := by
    have hraw : (Property.ofRaw m.name shape).raw? = some m.name := raw?_ofRaw m.name shape
    rw [← EnumType.firstNamed_strip_iff]
    refine (exists_materialize_iff hraw hlocale property kind).trans ?_
    rw [read_enum_eq_ok_iff rfl hnames]
    constructor
    · rintro (⟨hv, -⟩ | ⟨m', hm', hv⟩)
      · cases hv
      · cases hv
        exact hm'
    · intro hm
      exact .inr ⟨m, hm, rfl⟩
  refine ⟨?_, hreached, ?_⟩
  · rintro p raw hshape hraw
    have hkind : p.shape.kind = .enum t := by rw [hshape]
    have hoptional : isOptional = p.shape.isOptional := by rw [hshape]
    rw [← hshape, hoptional]
    constructor
    · intro v q
      rw [← read_enum_eq_ok_iff hkind hnames]
      exact materialize_eq_ok_iff hraw hlocale property kind
    · intro fault
      rw [← read_enum_eq_error_iff hkind hnames]
      exact materialize_eq_error_iff hraw hlocale property kind
  · rw [← hnames.forall_firstNamed_iff, ← forall₂_and]
    exact forall₂_congr fun m _ => hreached m

/-- Of two names that differ by case only, both give the member that was written first. -/
theorem member_of_materialize_second_spelling :
    let RED : EnumMember := ⟨"RED", .int 1⟩
    let red : EnumMember := ⟨"red", .int 2⟩
    let color : EnumType := .ofMembers "Color" [RED, red]
    let p : Property := .ofRaw "red" ⟨.enum color, false⟩
    (color.WellNamed ∧ readingLocale none = .ok none) ∧
      (∃ q, p.materialize "c" .any none = .ok (.member "Color" RED, q)) ∧
      ¬∀ m ∈ color.members, ∃ q, (Property.ofRaw m.name ⟨.enum color, false⟩).materialize "c" .any none =
        .ok (.member "Color" m, q) := by
  intro RED red color p
  have hnames : color.WellNamed := EnumType.wellNamed_ofMembers (by decide) (by decide)
  have hlocale : readingLocale none = .ok none := rfl
  have hmembers : color.members = [RED, red] := by
    have hvalues : Datum.sameKey (.int 1) (.int 2) = false := by decide
    simp [color, EnumType.ofMembers, RED, red, hvalues]
  have hfold : fold "RED" = fold "red" := by decide
  have hstrip : strip "red" = "red" := by decide
  obtain ⟨htexts, -, hall⟩ := member_of_materialize hnames hlocale false "c" .any
  have hfirst : color.FirstNamed (strip "red") RED := by
    rw [hstrip]
    exact ⟨[], [red], hmembers, hfold, nofun⟩
  refine ⟨⟨hnames, hlocale⟩, ⟨_, ((htexts p "red" rfl rfl).1 _ _).2 ⟨rfl, .inr ⟨RED, hfirst, rfl⟩⟩⟩, ?_⟩
  intro hreached
  have hnodup := (hall.1 hreached).2
  rw [hmembers] at hnodup
  exact absurd hnodup (by simp [RED, red, hfold])

end Property

end ReceiptTemplate
