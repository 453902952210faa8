import ReceiptTemplate.Expr.Evaluate
import ReceiptTemplate.Proofs.Value.Equality

/-!
# Comparisons — one equivalence and two linear orders

The six comparison operators fit together on all values: `==` is the equality of values, the ordered
operators go by the value of two numbers and by the code points of two texts, and of all other pairs
no ordered operator holds.
-/

namespace ReceiptTemplate

/-! ## Code points -/

namespace Text

def codePoints (s : String) : List ℕ :=
  s.toList.map Char.toNat

theorem codePoints_lt_iff {s t : String} : codePoints s < codePoints t ↔ s < t := by
  have hchar {c d : Char} : c.toNat < d.toNat ↔ c < d := UInt32.lt_iff_toNat_lt.symm
  have hlists (cs ds : List Char) : cs.map Char.toNat < ds.map Char.toNat ↔ cs < ds := by
    induction cs generalizing ds with
    | nil => cases ds <;> simp
    | cons c cs ih =>
      cases ds with
      | nil => simp
      | cons d ds =>
        rw [List.map_cons, List.map_cons, List.cons_lt_cons_iff, List.cons_lt_cons_iff, hchar, ih,
          Char.toNat_inj]
  rw [String.lt_iff]
  exact hlists s.toList t.toList

theorem compareOfLessAndEq_eq_lt_iff {s t : String} :
    compareOfLessAndEq s t = .lt ↔ codePoints s < codePoints t := by
  rw [compareOfLessAndEq_eq_lt, codePoints_lt_iff]

theorem compareOfLessAndEq_eq_gt_iff {s t : String} :
    compareOfLessAndEq s t = .gt ↔ codePoints t < codePoints s := by
  rw [compareOfLessAndEq_eq_gt String.le_antisymm String.le_total String.not_le, codePoints_lt_iff]

theorem compareOfLessAndEq_eq_eq_iff {s t : String} : compareOfLessAndEq s t = .eq ↔ s = t :=
  compareOfLessAndEq_eq_eq String.le_refl String.not_le

end Text

namespace Value

variable {a b c : Value}

/-! ## Ordered pairs -/

def SameVariant : Value → Value → Prop
  | .null, .null | .bool _, .bool _ | .number _, .number _ | .text _, .text _
  | .array _, .array _ | .object _, .object _ => True
  | _, _ => False

/-- Two numbers or two texts. -/
def Comparable : Value → Value → Prop
  | .number _, .number _ | .text _, .text _ => True
  | _, _ => False

/-- A number of lower value, or a text that comes first by its code points. -/
inductive Below : Value → Value → Prop
  | number {a b : Decimal} (h : a.toRat < b.toRat) : Below (.number a) (.number b)
  | text {s t : String} (h : Text.codePoints s < Text.codePoints t) : Below (.text s) (.text t)

theorem Equal.sameVariant (h : a.Equal b) : a.SameVariant b := by
  cases h <;> trivial

theorem Below.comparable (h : a.Below b) : a.Comparable b := by
  cases h <;> trivial

theorem Comparable.symm (h : a.Comparable b) : b.Comparable a := by
  unfold Comparable at h
  split at h
  · trivial
  · trivial
  · exact h.elim

theorem Below.trans (h : a.Below b) (h' : b.Below c) : a.Below c := by
  cases h with
  | number h =>
    cases h' with
    | number h' => exact .number (lt_trans h h')
  | text h =>
    cases h' with
    | text h' => exact .text (lt_trans h h')

theorem order?_of_not_comparable (h : ¬a.Comparable b) : a.order? b = none := by
  unfold order?
  split
  · exact absurd trivial h
  · exact absurd trivial h
  · rfl

/-- Two numbers or two texts are in exactly one order. -/
theorem exists_order? (h : a.Comparable b) : ∃ o, a.order? b = some o ∧
    (o = .lt ↔ a.Below b) ∧ (o = .gt ↔ b.Below a) ∧ (o = .eq ↔ a.same b = true) := by
  unfold Comparable at h
  split at h
  · next x y =>
    refine ⟨x.cmp y, rfl, ?_, ?_, ?_⟩
    · rw [Decimal.cmp_eq, compare_lt_iff_lt]
      exact ⟨.number, fun h => by cases h; assumption⟩
    · rw [Decimal.cmp_eq, compare_gt_iff_gt]
      exact ⟨.number, fun h => by cases h; assumption⟩
    · rw [same, Decimal.same, beq_iff_eq]
  · next s t =>
    refine ⟨compareOfLessAndEq s t, rfl, ?_, ?_, ?_⟩
    · rw [Text.compareOfLessAndEq_eq_lt_iff]
      exact ⟨.text, fun h => by cases h; assumption⟩
    · rw [Text.compareOfLessAndEq_eq_gt_iff]
      exact ⟨.text, fun h => by cases h; assumption⟩
    · rw [Text.compareOfLessAndEq_eq_eq_iff, same, beq_iff_eq]
  · exact h.elim

end Value

namespace Comparison

open Value (Comparable Below Equal SameVariant)

variable {a b c : Value}

/-! ## Operators -/

/-- The four operators that ask for an order. -/
def IsOrdered (op : Comparison) : Prop :=
  op ≠ .equal ∧ op ≠ .notEqual

variable {op : Comparison} {o : Ordering}

theorem apply_of_order? (hop : op.IsOrdered) (h : a.order? b = some o) :
    op.apply a b = op.holds o := by
  cases op with
  | equal => exact absurd rfl hop.1
  | notEqual => exact absurd rfl hop.2
  | _ => simp [apply, h]

theorem apply_of_not_comparable (hop : op.IsOrdered) (h : ¬a.Comparable b) :
    op.apply a b = false := by
  have horder := Value.order?_of_not_comparable h
  cases op with
  | equal => exact absurd rfl hop.1
  | notEqual => exact absurd rfl hop.2
  | _ => simp [apply, horder]

theorem equal_apply_iff (ha : a.WellKeyed) (hb : b.WellKeyed) :
    equal.apply a b = true ↔ a.Equal b :=
  Value.same_iff_equal ha hb

theorem less_apply_iff (a b : Value) : less.apply a b = true ↔ a.Below b := by
  have hless : less.IsOrdered := ⟨nofun, nofun⟩
  by_cases h : a.Comparable b
  · obtain ⟨o, horder, hlt, -, -⟩ := Value.exists_order? h
    rw [apply_of_order? hless horder, ← hlt]
    exact beq_iff_eq
  · rw [apply_of_not_comparable hless h]
    exact iff_of_false Bool.false_ne_true fun hbelow => h hbelow.comparable

theorem greater_apply_iff (a b : Value) : greater.apply a b = true ↔ b.Below a := by
  have hgreater : greater.IsOrdered := ⟨nofun, nofun⟩
  by_cases h : a.Comparable b
  · obtain ⟨o, horder, -, hgt, -⟩ := Value.exists_order? h
    rw [apply_of_order? hgreater horder, ← hgt]
    exact beq_iff_eq
  · rw [apply_of_not_comparable hgreater h]
    exact iff_of_false Bool.false_ne_true fun hbelow => h hbelow.comparable.symm

/-- On two numbers and on two texts the operators say which of the three orders there is. -/
theorem apply_of_comparable (h : a.Comparable b) : ∃ o : Ordering,
    less.apply a b = (o == .lt) ∧ equal.apply a b = (o == .eq) ∧ greater.apply a b = (o == .gt) ∧
      lessEqual.apply a b = (o != .gt) ∧ greaterEqual.apply a b = (o != .lt) := by
  obtain ⟨o, horder, -, -, heq⟩ := Value.exists_order? h
  refine ⟨o, apply_of_order? ⟨nofun, nofun⟩ horder, ?_, apply_of_order? ⟨nofun, nofun⟩ horder,
    apply_of_order? ⟨nofun, nofun⟩ horder, apply_of_order? ⟨nofun, nofun⟩ horder⟩
  rw [Bool.eq_iff_iff, beq_iff_eq]
  exact heq.symm

/-- How the comparison operators fit together on three values. -/
structure Coherent (a b c : Value) : Prop where
  /-- An expression compares what its operands evaluate to. -/
  eval (op : Comparison) (env : Surroundings) (l r : Expr) (hl : l.eval env = .ok a)
    (hr : r.eval env = .ok b) : (Expr.comparison op l r).eval env = .ok (.bool (op.apply a b))
  /-- Equality is that of values, whatever the scale of numbers and the order of keys. -/
  equal_iff : equal.apply a b = true ↔ a.Equal b
  equal_self : equal.apply a a = true
  equal_comm : equal.apply a b = equal.apply b a
  equal_trans : equal.apply a b = true → equal.apply b c = true → equal.apply a c = true
  notEqual_eq : notEqual.apply a b = !equal.apply a b
  equal_variant : ¬a.SameVariant b → equal.apply a b = false
  less_iff : less.apply a b = true ↔ a.Below b
  greater_iff : greater.apply a b = true ↔ b.Below a
  less_trans : less.apply a b = true → less.apply b c = true → less.apply a c = true
  /-- Exactly one of the three holds. -/
  trichotomy : a.Comparable b →
    (less.apply a b, equal.apply a b, greater.apply a b) = (true, false, false) ∨
      (less.apply a b, equal.apply a b, greater.apply a b) = (false, true, false) ∨
        (less.apply a b, equal.apply a b, greater.apply a b) = (false, false, true)
  lessEqual_eq : a.Comparable b → lessEqual.apply a b = (less.apply a b || equal.apply a b)
  greaterEqual_eq : a.Comparable b →
    greaterEqual.apply a b = (greater.apply a b || equal.apply a b)
  not_comparable : ¬a.Comparable b → ∀ op : Comparison, op.IsOrdered → op.apply a b = false

/-- Comparisons are coherent on all values. -/
theorem coherent_of_wellKeyed (ha : a.WellKeyed) (hb : b.WellKeyed) (hc : c.WellKeyed) :
    Coherent a b c where
  eval op env l r hl hr := by
    rw [Expr.eval, hl, hr]
    rfl
  equal_iff := equal_apply_iff ha hb
  equal_self := (equal_apply_iff ha ha).2 ha.equal_self
  equal_comm := by
    rw [Bool.eq_iff_iff, equal_apply_iff ha hb, equal_apply_iff hb ha]
    exact ⟨.symm, .symm⟩
  equal_trans h h' := by
    rw [equal_apply_iff ha hb] at h
    rw [equal_apply_iff hb hc] at h'
    exact (equal_apply_iff ha hc).2 (h.trans h')
  notEqual_eq := rfl
  equal_variant h := by
    rw [Bool.eq_false_iff, ne_eq, equal_apply_iff ha hb]
    exact fun hequal => h hequal.sameVariant
  less_iff := less_apply_iff a b
  greater_iff := greater_apply_iff a b
  less_trans h h' := by
    rw [less_apply_iff] at h h' ⊢
    exact h.trans h'
  trichotomy h := by
    obtain ⟨o, hless, hequal, hgreater, -, -⟩ := apply_of_comparable h
    rw [hless, hequal, hgreater]
    cases o <;> decide
  lessEqual_eq h := by
    obtain ⟨o, hless, hequal, -, hlessEqual, -⟩ := apply_of_comparable h
    rw [hless, hequal, hlessEqual]
    cases o <;> rfl
  greaterEqual_eq h := by
    obtain ⟨o, -, hequal, hgreater, -, hgreaterEqual⟩ := apply_of_comparable h
    rw [hgreater, hequal, hgreaterEqual]
    cases o <;> rfl
  not_comparable h op hop := apply_of_not_comparable hop h

/-- Two objects with their keys in another order and the same number at another scale below them. -/
theorem coherent_of_wellKeyed_scales :
    let a := Value.ofEntries [("total", .array [.number ⟨false, 150, -2⟩]), ("Note", .text "ä")]
    let b := Value.ofEntries [("Note", .text "ä"), ("total", .array [.number ⟨false, 15, -1⟩])]
    let c := Value.number ⟨true, 0, 3⟩
    (a.WellKeyed ∧ b.WellKeyed ∧ c.WellKeyed) ∧ Coherent a b c ∧ equal.apply a b = true ∧
      equal.apply a c = false := by
  intro a b c
  have harray (d : Decimal) : (Value.array [.number d]).WellKeyed := by
    refine .array ?_
    intro v hv
    rw [List.mem_singleton.1 hv]
    exact .number d
  have ha : a.WellKeyed := Value.wellKeyed_ofEntries (by simp [harray, Value.WellKeyed.text])
  have hb : b.WellKeyed := Value.wellKeyed_ofEntries (by simp [harray, Value.WellKeyed.text])
  have hc : c.WellKeyed := .number _
  exact ⟨⟨ha, hb, hc⟩, coherent_of_wellKeyed ha hb hc, by decide, by decide⟩

end Comparison
end ReceiptTemplate
