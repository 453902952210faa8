import ReceiptTemplate.Text.Basic
import ReceiptTemplate.Text.Quoted
import ReceiptTemplate.Unicode.DecimalDigit

/-!
# Integers as text — reading whole numbers

An integer is written with an optional sign and decimal digits of any script.  A single underscore
may stand between two digits and blanks may surround the whole.  `readDigits` is the positional
value of a run of digits.
-/

namespace ReceiptTemplate
namespace Text

open Unicode (digitValue? isDecimalDigit)

/-- More digits than this are refused when an integer is read from text. -/
def maxIntegerDigits : Nat := 4300

/-- The positional value of the digits, continued from `acc`. -/
def readDigitsFrom (acc : Nat) (cs : List Char) : Nat :=
  cs.foldl (fun n c => 10 * n + (digitValue? c).getD 0) acc

/-- The positional value of a run of digits; characters that are no digits count as zero. -/
def readDigits (cs : List Char) : Nat :=
  readDigitsFrom 0 cs

/-- The digits without the underscores that group them; `none` if the grouping is malformed. -/
def ungroupDigits : List Char → Option (List Char)
  | [] => none
  | [d] => if isDecimalDigit d then some [d] else none
  | d :: '_' :: cs => if isDecimalDigit d then (ungroupDigits cs).map (d :: ·) else none
  | d :: cs => if isDecimalDigit d then (ungroupDigits cs).map (d :: ·) else none

/-- A leading sign and what follows it; `true` stands for minus. -/
def splitSign : List Char → Bool × List Char
  | '-' :: cs => (true, cs)
  | '+' :: cs => (false, cs)
  | cs => (false, cs)

/-- The integer that a text denotes. -/
def readInteger? (s : String) : Option Int :=
  let (negative, cs) := splitSign (stripWhile Unicode.isNumberBlank s.toList)
  match ungroupDigits cs with
  | none => none
  | some digits =>
    if maxIntegerDigits < digits.length then none
    else
      let n : Int := readDigits digits
      some (if negative then -n else n)

/-- The message on a number of digits that is over the limit. -/
def tooManyDigitsMessage (digits : Nat) : String :=
  s!"Exceeds the limit ({maxIntegerDigits} digits) for integer string conversion: " ++
    s!"value has {digits} digits; use sys.set_int_max_str_digits() to increase the limit"

/-- Why a text is not read as an integer: it has too many digits, or it is no number at all. -/
def unreadableMessage (s : String) : String :=
  let digits := (s.toList.filter isDecimalDigit).length
  if maxIntegerDigits < digits ∧ s.toList.all isDecimalDigit then tooManyDigitsMessage digits
  else s!"invalid literal for int() with base 10: {quoted s}"

/-- The decimal digits of a number. -/
def digitsOf (n : Nat) : List Char :=
  Nat.toDigits 10 n

/-- The integer in decimal digits, with a minus sign below zero. -/
def integerText (n : Int) : String :=
  String.ofList (if n < 0 then '-' :: digitsOf n.natAbs else digitsOf n.natAbs)

end Text
end ReceiptTemplate
