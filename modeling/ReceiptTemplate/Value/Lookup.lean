import ReceiptTemplate.Expr.Path
import ReceiptTemplate.Value.Basic

/-!
# Lookup — parts of a value by segment and by computed key

A name selects a property whatever its case, an index an element of an array or the property spelled
by its digits.  What is missing, and any step into a value without parts, gives null.
-/

namespace ReceiptTemplate
namespace Value

/-- The value of an optional part; what is absent is null. -/
def orNull : Option Value → Value
  | some v => v
  | none => .null

/-- The part that one segment selects. -/
def step (v : Value) (s : Segment) : Value :=
  match v, s with
  | .object entries, .name key => orNull (property? entries key)
  | .object entries, .index n => orNull (exactProperty? entries (Text.integerText n))
  | .array items, .index n => orNull items[n]?
  | _, _ => .null

/-- The part that the segments select one after the other. -/
def walk (v : Value) (segments : List Segment) : Value :=
  segments.foldl step v

/-- The property of an object that a computed key names.  A text key ignores case only where it was
written as a member. -/
def keyedProperty? (entries : Entries Value) (key : Value) (ignoreCase : Bool) : Option Value :=
  match key with
  | .text s => if ignoreCase then property? entries s else exactProperty? entries s
  | .number _ | .bool _ => exactProperty? entries key.toText
  | _ => none

/-- The element of an array that a computed key names: a number, cut to a whole one, that is not
below zero. -/
def element? (items : List Value) : Value → Option Value
  | .number d => if d.isBelowZero then none else items[d.wholeAbs]?
  | _ => none

/-- The part of a value under a computed key. -/
def atKey (target key : Value) (ignoreCase : Bool) : Value :=
  match target with
  | .object entries => orNull (keyedProperty? entries key ignoreCase)
  | .array items => orNull (element? items key)
  | _ => .null

theorem step_null (s : Segment) : step .null s = .null := by
  cases s <;> rfl

theorem walk_null (segments : List Segment) : walk .null segments = .null := by
  induction segments with
  | nil => rfl
  | cons s rest ih => rw [walk, List.foldl_cons, step_null]; exact ih

end Value
end ReceiptTemplate
