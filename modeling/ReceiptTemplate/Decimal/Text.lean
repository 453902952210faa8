import ReceiptTemplate.Decimal.Basic

/-!
# Decimal text — writing and reading decimal numbers

`scientific` shows coefficient, exponent and sign exactly: plain notation for a scale of zero or more
and a leading digit not below the sixth decimal place, a power of ten otherwise.  `plain` never
uses a power of ten, and a zero loses its sign there.  `read?` accepts both forms, and the names
of the values that are no numbers, which a `Reading` keeps apart from the finite ones.
-/

namespace ReceiptTemplate
namespace Decimal

open Text (digitsOf readDigits splitSign stripChars)
open Unicode (digitValue? isDecimalDigit isBlank)

/-! ## Writing -/

/-- Digits with a point before the last `places`, filled up with zeros on the left. -/
def pointed (places : Nat) (digits : List Char) : List Char :=
  if places = 0 then digits
  else
    let padded := Text.padZeros (places + 1) digits
    padded.take (padded.length - places) ++ '.' :: padded.drop (padded.length - places)

/-- The digits of the magnitude, with a point where there is a scale. -/
def plainChars (d : Decimal) : List Char :=
  if 0 ≤ d.exponent then
    if d.coefficient = 0 then ['0'] else digitsOf d.coefficient ++ List.replicate d.exponent.toNat '0'
  else pointed (-d.exponent).toNat (digitsOf d.coefficient)

/-- Plain notation; a zero is written without its sign. -/
def plain (d : Decimal) : String :=
  String.ofList (if d.isBelowZero then '-' :: d.plainChars else d.plainChars)

/-- Coefficient and exponent in one text. -/
def scientificChars (d : Decimal) : List Char :=
  let digits := digitsOf d.coefficient
  if d.exponent ≤ 0 ∧ -6 ≤ d.adjusted then pointed (-d.exponent).toNat digits
  else
    let mantissa :=
      match digits with
      | [] => []
      | [c] => [c]
      | c :: cs => c :: '.' :: cs
    let power := d.adjusted
    mantissa ++ 'E' :: (if power < 0 then '-' else '+') :: digitsOf power.natAbs

def scientific (d : Decimal) : String :=
  String.ofList (if d.negative then '-' :: d.scientificChars else d.scientificChars)

/-! ## Reading -/

/-- What the text of a number can denote. -/
inductive Reading where
  | finite (value : Decimal)
  | infinite (negative : Bool)
  /-- Not a number; a signaling one may not even be compared. -/
  | nan (negative signaling : Bool) (payload : List Char)

/-- Exponents of larger magnitude are refused. -/
def exponentLimit : Int := 999999999999999999

/-- The text a reading is shown as. -/
def Reading.text : Reading → String
  | .finite d => d.scientific
  | .infinite negative => if negative then "-Infinity" else "Infinity"
  | .nan negative signaling payload =>
    (if negative then "-" else "") ++ (if signaling then "sNaN" else "NaN") ++ String.ofList payload

/-- An ASCII character as it is, a blank as a space and a digit of any script as an ASCII digit. -/
def asciiChar? (c : Char) : Option Char :=
  if 0 < c.toNat ∧ c.toNat ≤ 127 then some c
  else if isBlank c then some ' '
  else (digitValue? c).map fun v => Char.ofNat (48 + v)

/-- The text in ASCII; `none` if it holds a character of another kind. -/
def asciiForm (cs : List Char) : Option (List Char) :=
  cs.mapM asciiChar?

/-- The exponent that ends a number, zero when there is none. -/
def readExponent? : List Char → Option Int
  | [] => some 0
  | c :: cs =>
    if c = 'e' || c = 'E' then
      let (negative, ds) := splitSign cs
      if ds.isEmpty || !ds.all Char.isDigit then none
      else
        let n : Int := readDigits ds
        some (if negative then -n else n)
    else none

/-- Whether the exponent range holds the number exactly. -/
def inRange (d : Decimal) : Bool :=
  if d.isZero then -(2 * exponentLimit - 1) ≤ d.exponent && d.exponent ≤ exponentLimit
  else -(2 * exponentLimit - 1) ≤ d.exponent && d.adjusted ≤ exponentLimit

/-- Digits, at most one point among them, and an exponent of any size. -/
def readFinite? (negative : Bool) (cs : List Char) : Option Decimal :=
  let whole := cs.takeWhile Char.isDigit
  let afterWhole := cs.dropWhile Char.isDigit
  let (fraction, afterFraction) :=
    match afterWhole with
    | '.' :: rest => (rest.takeWhile Char.isDigit, rest.dropWhile Char.isDigit)
    | rest => ([], rest)
  if whole.isEmpty && fraction.isEmpty then none
  else
    match readExponent? afterFraction with
    | none => none
    | some e => some ⟨negative, readDigits (whole ++ fraction), e - fraction.length⟩

/-- The names of the values that are no numbers, whatever their case. -/
def readSpecial? (negative : Bool) (cs : List Char) : Option Reading :=
  let low := cs.map Char.toLower
  if low = "inf".toList || low = "infinity".toList then some (.infinite negative)
  else
    let nan? (signaling : Bool) (payload : List Char) : Option Reading :=
      if payload.all Char.isDigit then
        some (.nan negative signaling (payload.dropWhile (· == '0')))
      else none
    if "nan".toList.isPrefixOf low then nan? false (cs.drop 3)
    else if "snan".toList.isPrefixOf low then nan? true (cs.drop 4)
    else none

/-- The value of the text of a number; blanks around it and underscores in it are skipped. -/
def read? (s : String) : Option Reading :=
  match asciiForm ((stripChars s.toList).filter (· != '_')) with
  | none => none
  | some cs =>
    let (negative, body) := splitSign cs
    match readFinite? negative body with
    | some d => if d.inRange then some (.finite d) else none
    | none => readSpecial? negative body

end Decimal
end ReceiptTemplate
