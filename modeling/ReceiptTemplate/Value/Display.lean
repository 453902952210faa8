import ReceiptTemplate.JsonTree
import ReceiptTemplate.Value.Basic

/-!
# Display — values on a terminal

On a terminal null is visible, and arrays and objects are shown as JSON.  Numbers inside them are
shown as texts, because JSON has no decimals with a scale.
-/

namespace ReceiptTemplate
namespace Value

mutual

def toJson : Value → JsonTree
  | .null => .null
  | .bool b => .bool b
  | .number d => .text d.scientific
  | .text s => .text s
  | .array items => .array (toJsonItems items)
  | .object entries => .object (toJsonEntries entries)

def toJsonItems : List Value → List JsonTree
  | [] => []
  | v :: vs => toJson v :: toJsonItems vs

def toJsonEntries : List (String × Value) → List (String × JsonTree)
  | [] => []
  | (k, v) :: rest => (k, toJson v) :: toJsonEntries rest

end

/-- The value as a terminal shows it. -/
def display : Value → String
  | .null => "null"
  | .array items => (toJson (.array items)).compact
  | .object entries => (toJson (.object entries)).compact
  | v => v.toText

end Value
end ReceiptTemplate
