import ReceiptTemplate.Property.Basic

/-!
# Reading — from the raw text of a property to its value

Blank text is settled by the shape alone.  Any other text is read by the kind of the shape, and a fault of
that reading is told with the property and the text.  Only numbers are read in a notation.
-/

namespace ReceiptTemplate

/-! ## Shapes -/

/-- Whether a text of the shape is a number. -/
def ShapeKind.isNumber : ShapeKind → Bool
  | .integer | .float => true
  | .text | .boolean | .enum _ => false

theorem Shape.read_of_not_isNumber {kind : ShapeKind} (h : kind.isNumber = false)
    (locale locale' : Option Locale) (raw : String) :
    Shape.read kind locale raw = Shape.read kind locale' raw := by
  cases kind with
  | text | boolean | enum type => rfl
  | integer | float => cases h

/-! ## Properties -/

namespace Property

variable {shape : Shape} {property raw : String} {l : Option Locale}

/-- How a property tells that a text is not of its shape; other faults are passed on. -/
def faultOf (property : String) (shape : Shape) (raw : String) : ShapeFault → PropertyFault
  | .mismatch => .mismatch property shape raw
  | fault => .unreadable fault

theorem faultOf_eq_unreadable_iff {fault : ShapeFault} {told : ShapeFault} :
    faultOf property shape raw fault = .unreadable told ↔ fault = told ∧ fault ≠ .mismatch := by
  cases fault <;> simp [faultOf]

theorem read_of_not_blank (hblank : Text.isAllBlank raw = false) :
    read shape property raw l =
      (Shape.read shape.kind l raw).mapError (faultOf property shape raw) := by
  have hcondition : ¬Text.isAllBlank raw = true := Bool.eq_false_iff.1 hblank
  unfold read
  rw [if_neg hcondition]
  rfl

theorem read_eq_ok_iff (hblank : Text.isAllBlank raw = false) {v : TypedValue} :
    read shape property raw l = .ok v ↔ Shape.read shape.kind l raw = .ok v := by
  rw [read_of_not_blank hblank]
  cases Shape.read shape.kind l raw with
  | ok w =>
    constructor
    all_goals
      intro h
      cases h
      rfl
  | error fault => exact ⟨nofun, nofun⟩

/-- Blank text is no value, itself, or refused. -/
theorem read_blank_cases (hblank : Text.isAllBlank raw = true) (shape : Shape) (property : String)
    (l : Option Locale) :
    (shape.isOptional = true ∧ read shape property raw l = .ok .absent) ∨
      (shape.kind = .text ∧ read shape property raw l = .ok (.text raw)) ∨
      read shape property raw l = .error (.empty property shape raw) := by
  unfold read
  rw [if_pos hblank]
  split
  · next hoptional => exact .inl ⟨hoptional, rfl⟩
  · split
    · next htext => exact .inr (.inl ⟨htext, rfl⟩)
    · exact .inr (.inr rfl)

end Property
end ReceiptTemplate
