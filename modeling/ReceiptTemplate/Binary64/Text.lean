import ReceiptTemplate.Binary64.Shortest
import ReceiptTemplate.Decimal.Text

/-!
# Binary64 text — writing doubles with their shortest digits and reading them

A double from `1e-4` up to `1e16` is written in plain notation with at least one decimal place, any
other with an exponent of at least two digits.  `toDecimal` is the decimal that this text denotes;
a whole double keeps the one decimal place.
-/

namespace ReceiptTemplate
namespace Binary64

open Text (digitsOf padZeros stripWhile splitSign)

/-! ## Writing -/

/-- Whether a number whose leading digit stands at `power` is written without an exponent. -/
def isPositional (power : Int) : Bool :=
  -4 ≤ power && power < 16

/-- The decimal with the shortest digits, with one decimal place if it is whole and written without
an exponent. -/
def finiteDecimal (negative : Bool) (mantissa : Nat) (exponent : Int) : Decimal :=
  let (n, power) := shortest mantissa exponent
  let d : Decimal := ⟨negative, n, power⟩
  if isPositional d.adjusted && 0 ≤ power then
    ⟨negative, n * Nat.pow 10 (power.toNat + 1), -1⟩
  else d

/-- The decimal that the text of a double denotes. -/
def toDecimal : Binary64 → Decimal.Reading
  | .finite negative m q => .finite (finiteDecimal negative m q)
  | .infinite negative => .infinite negative
  | .nan => .nan false false []

def textOfDecimal (d : Decimal) : List Char :=
  let digits := digitsOf d.coefficient
  if isPositional d.adjusted then d.plainChars
  else
    let mantissa :=
      match digits with
      | [] => []
      | [c] => [c]
      | c :: cs => c :: '.' :: cs
    let power := d.adjusted
    mantissa ++ 'e' :: (if power < 0 then '-' else '+') :: padZeros 2 (digitsOf power.natAbs)

/-- The shortest text that reads back as the double. -/
def text : Binary64 → String
  | .finite negative m q =>
    let cs := textOfDecimal (finiteDecimal negative m q)
    String.ofList (if negative then '-' :: cs else cs)
  | .infinite negative => if negative then "-inf" else "inf"
  | .nan => "nan"

/-! ## Reading -/

/-- ASCII digits with single underscores between two digits taken out. -/
def ungroup : List Char → Option (List Char)
  | [] => some []
  | [c] => if c = '_' then none else some [c]
  | c :: '_' :: d :: cs =>
    if c.isDigit && d.isDigit then (ungroup (d :: cs)).map (c :: ·) else none
  | c :: d :: cs => if c = '_' then none else (ungroup (d :: cs)).map (c :: ·)

/-- The names of the doubles that are no finite numbers. -/
def readSpecial? (negative : Bool) (cs : List Char) : Option Binary64 :=
  let low := cs.map Char.toLower
  if low = "inf".toList || low = "infinity".toList then some (.infinite negative)
  else if low = "nan".toList then some .nan
  else none

/-- The double that a text denotes. -/
def read? (s : String) : Option Binary64 := do
  let cs ← ungroup (← Decimal.asciiForm (stripWhile Unicode.isNumberBlank s.toList))
  let (negative, body) := splitSign cs
  match Decimal.readFinite? negative body with
  | some d => some (ofDecimal d)
  | none => readSpecial? negative body

/-- The double nearest to a number that was read as a decimal; a signaling one has none. -/
def ofReading : Decimal.Reading → Option Binary64
  | .finite d => some (ofDecimal d)
  | .infinite negative => some (.infinite negative)
  | .nan _ signaling _ => if signaling then none else some .nan

end Binary64
end ReceiptTemplate
