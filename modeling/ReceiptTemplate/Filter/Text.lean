import ReceiptTemplate.Filter.Number

/-!
# Text filters — case, blanks and length

`upper`, `lower` and `trim` change texts only.  `truncate` writes any value but an array or an object
as text and cuts it to a length; a suffix marks the cut and counts toward the length.
-/

namespace ReceiptTemplate
namespace Filter

/-- A filter that changes texts and leaves other values as they are. -/
def onText (f : String → String) : FilterFunction
  | .text s, _, _ => .ok (.text (f s))
  | v, _, _ => .ok v

def upper : FilterFunction := onText Text.upper

def lower : FilterFunction := onText Text.lower

def trim : FilterFunction := onText Text.strip

/-! ## Truncation -/

/-- The length of a cut text where no argument gives one. -/
def standardLength : Nat := 50

def maxTruncateLength : Nat := 10000

def maxSuffixLength : Nat := 100

/-- The mark of a cut where no argument gives one. -/
def standardSuffix : String := "..."

/-- The length that the arguments give: `length` comes before the positional argument. -/
def truncateLength (args : FilterArguments) : Nat :=
  let given := (integerArgument? (args.value? "length")).or (integerArgument? args.positional)
  clamp maxTruncateLength (given.getD standardLength)

def truncateSuffix (args : FilterArguments) : String :=
  Text.take maxSuffixLength (((args.value? "suffix").map Value.toText).getD standardSuffix)

/-- The text cut to a length, with the suffix at the cut. -/
def cutText (length : Nat) (suffix : String) (fromEnd : Bool) (s : String) : String :=
  let cs := s.toList
  let mark := suffix.toList
  if cs.length ≤ length then s
  else if length ≤ mark.length then String.ofList (mark.take length)
  else
    let keep := length - mark.length
    if fromEnd then String.ofList (mark ++ cs.drop (cs.length - keep))
    else String.ofList (cs.take keep ++ mark)

def truncate : FilterFunction
  | .array items, _, _ => .ok (.array items)
  | .object entries, _, _ => .ok (.object entries)
  | v, args, _ =>
    .ok (.text
      (cutText (truncateLength args) (truncateSuffix args) (args.hasFlag "fromEnd") v.toText))

end Filter
end ReceiptTemplate
