import ReceiptTemplate.Filter.Arguments
import ReceiptTemplate.Locale.Basic
import ReceiptTemplate.Number.Format

/-!
# Filters — named functions on values

A filter maps a value, its arguments and a locale to a value.  Documentation is optional.  A filter can
also leave notes about arguments that it passes over.
-/

namespace ReceiptTemplate

/-- Why a number is not taken up. -/
inductive NumberFault where
  /-- A text of digits that denotes none. -/
  | noNumber (text : String)
  /-- A number that takes more digits than any working precision has. -/
  | boundless
deriving DecidableEq

/-- Why a filter gives no value. -/
inductive FilterFault where
  | unwritable (fault : FormatFault)
  | unreadableNumber (fault : NumberFault)
deriving DecidableEq

/-- The message of a fault; a number that does not fit has none. -/
def FilterFault.message : FilterFault → String
  | .unwritable (.longFraction digits) => Text.tooManyDigitsMessage digits
  | .unwritable _ => ""
  | .unreadableNumber (.noNumber text) => Text.unreadableMessage text
  | .unreadableNumber .boundless => "valid range for prec is [1, MAX_PREC]"

/-- What a filter is about. -/
inductive FilterCategory where
  | number | text | lookup
deriving DecidableEq

namespace FilterCategory

def name : FilterCategory → String
  | .number => "number"
  | .text => "text"
  | .lookup => "lookup"

def ofName? : String → Option FilterCategory
  | "number" => some .number
  | "text" => some .text
  | "lookup" => some .lookup
  | _ => none

end FilterCategory

structure FilterDocs where
  description : String
  category : FilterCategory
  examples : List String

/-- What a filter computes. -/
abbrev FilterFunction := Value → FilterArguments → Locale → Except FilterFault Value

structure Filter where
  name : String
  docs : Option FilterDocs
  apply : FilterFunction
  /-- Remarks on an application. -/
  notes : Value → FilterArguments → Locale → List String

end ReceiptTemplate
