import ReceiptTemplate.Decimal.Basic
import ReceiptTemplate.Decimal.Text
import ReceiptTemplate.Entries
import ReceiptTemplate.Text.Case

/-!
# Values — what an expression can see

A value is null, a boolean, a finite decimal number, a text, an array or an object.  Values of
different variants are never equal; numbers are equal by their numeric value, arrays element by
element, and objects as maps, whatever the order of their keys.
-/

namespace ReceiptTemplate

inductive Value where
  | null
  | bool (b : Bool)
  | number (d : Decimal)
  | text (s : String)
  | array (items : List Value)
  | object (entries : List (String × Value))
deriving Inhabited

namespace Value

/-! ## Objects -/

/-- The entries of an object: blanks around a key are dropped, and of equal keys the last value
stands at the first place. -/
def normalizeEntries (pairs : List (String × Value)) : Entries Value :=
  Entries.ofList (pairs.map fun p => (Text.strip p.1, p.2))

/-- The object built from pairs of a key and a value. -/
def ofEntries (pairs : List (String × Value)) : Value :=
  .object (normalizeEntries pairs)

/-- The first entry whose key differs from `key` by case only. -/
def findFolded? (entries : Entries Value) (key : String) : Option Value :=
  (entries.find? fun p => Text.fold p.1 == Text.fold key).map (·.2)

/-- The value of a property: the stripped key as written comes first, then the first key that
differs from it by case only. -/
def property? (entries : Entries Value) (key : String) : Option Value :=
  match entries.get? (Text.strip key) with
  | some v => some v
  | none => findFolded? entries (Text.strip key)

/-- The value of the key exactly as written. -/
def exactProperty? (entries : Entries Value) (key : String) : Option Value :=
  entries.get? key

/-! ## Truth and text -/

/-- Null, false, zero and what is empty are not truthy. -/
def isTruthy : Value → Bool
  | .null => false
  | .bool b => b
  | .number d => !d.isZero
  | .text s => s != ""
  | .array items => !items.isEmpty
  | .object entries => !entries.isEmpty

/-- The text that stands for a value in a template.  Null, arrays and objects have none. -/
def toText : Value → String
  | .null => ""
  | .bool b => if b then "true" else "false"
  | .number d => d.plain
  | .text s => s
  | .array _ => ""
  | .object _ => ""

def isNull : Value → Bool
  | .null => true
  | _ => false

/-! ## Equality -/

mutual

/-- Equality of values. -/
def same : Value → Value → Bool
  | .null, .null => true
  | .bool a, .bool b => a == b
  | .number a, .number b => a.same b
  | .text a, .text b => a == b
  | .array as, .array bs => sameItems as bs
  | .object as, .object bs => as.length == bs.length && sameEntries as bs
  | _, _ => false

/-- Equality of arrays, element by element. -/
def sameItems : List Value → List Value → Bool
  | [], [] => true
  | a :: as, b :: bs => same a b && sameItems as bs
  | _, _ => false

/-- Whether every entry has an equal one in the other object. -/
def sameEntries : List (String × Value) → List (String × Value) → Bool
  | [], _ => true
  | (k, v) :: as, bs =>
    (match Entries.get? bs k with
    | some w => same v w
    | none => false) && sameEntries as bs

end

end Value
end ReceiptTemplate
