import ReceiptTemplate.Text.Constructor
import ReceiptTemplate.Value.Basic

/-!
# Constructor text of values — every part of a value with its variant

This form keeps apart what the text of a value blurs: a number and its digits, null and the empty
text.  Numbers show sign, coefficient and exponent.
-/

namespace ReceiptTemplate

/-- A decimal with its exact digits. -/
def Decimal.constructorText (d : Decimal) : String :=
  "Decimal('" ++ d.scientific ++ "')"

namespace Value

mutual

def constructorText : Value → String
  | .null => Text.constructor "NullValue" []
  | .bool b => Text.constructor "BoolValue" [("value", Text.truth b)]
  | .number d => Text.constructor "NumberValue" [("value", d.constructorText)]
  | .text s => Text.constructor "StringValue" [("value", Text.quoted s)]
  | .array items => Text.constructor "ArrayValue" [("items", Text.tuple (constructorTexts items))]
  | .object entries => "ObjectValue(" ++ Text.mapping (constructorEntries entries) ++ ")"

def constructorTexts : List Value → List String
  | [] => []
  | v :: vs => constructorText v :: constructorTexts vs

def constructorEntries : List (String × Value) → List (String × String)
  | [] => []
  | (k, v) :: rest => (Text.quoted k, constructorText v) :: constructorEntries rest

end

end Value
end ReceiptTemplate
