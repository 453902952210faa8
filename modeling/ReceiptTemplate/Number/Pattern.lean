import ReceiptTemplate.Text.Basic

/-!
# Number patterns — the shape in which a number is written

A pattern has a prefix, a number part and a suffix, and after a semicolon a second prefix and suffix
for negative numbers.  In the number part `0` and `@` stand for digits that are always written, `#` for
digits that are written if needed; commas set the group sizes, a point starts the fraction and `E` an
exponent.  A percent or per mille sign around the number scales it.
-/

namespace ReceiptTemplate

/-- What stands before and after a number. -/
structure Affixes where
  before : List Char
  after : List Char

/-- How many digits are written at least and at most. -/
structure DigitRange where
  least : Nat
  most : Nat
deriving DecidableEq

/-- How an exponent is written: its digits, and whether a plus sign is shown. -/
structure ExponentForm where
  digits : DigitRange
  showsPlus : Bool

structure NumberPattern where
  positive : Affixes
  negative : Affixes
  /-- Whether there is a number part at all. -/
  hasNumber : Bool
  /-- Whether digits are counted from the first one that is not zero. -/
  isSignificant : Bool
  whole : DigitRange
  fraction : DigitRange
  exponent : Option ExponentForm
  /-- The sizes of the group before the point and of the groups further left. -/
  groups : Nat × Nat

namespace NumberPattern

/-! ## Affixes -/

def isNumberChar (c : Char) : Bool :=
  c.isDigit || c == '@' || c == '#' || c == '.' || c == ',' || c == 'E' || c == '+'

/-- Whether a character, quotes aside, can stand before the number part. -/
def isPrefixChar (c : Char) : Bool :=
  !(c.isDigit || c == '@' || c == '#' || c == '.' || c == ',' || c == '\'')

/-- The text before the number part and what follows it; quoted text may hold any character. -/
def readBefore (cs : List Char) : List Char × List Char :=
  match cs with
  | [] => ([], [])
  | c :: tail =>
    if c = '\'' then
      match _h : Text.breakOn ['\''] tail with
      | some (quoted, rest) =>
        let (more, rest) := readBefore rest
        ('\'' :: quoted ++ '\'' :: more, rest)
      | none => ([], cs)
    else if isPrefixChar c then
      let (more, rest) := readBefore tail
      (c :: more, rest)
    else ([], cs)
termination_by cs.length
decreasing_by
  · have := Text.length_after_of_breakOn (List.cons_ne_nil _ _) ‹_›
    simp only [List.length_cons]
    omega
  · simp

/-- The affixes of a pattern and the number part between them; the suffix ends with the line. -/
def readParts (cs : List Char) : Affixes × List Char :=
  let (before, rest) := readBefore cs
  (⟨before, (rest.dropWhile isNumberChar).takeWhile (· != '\n')⟩, rest.takeWhile isNumberChar)

/-! ## Number part -/

/-- The digits that a run of placeholders asks for; another character ends the run. -/
def readDigitRange (cs : List Char) : DigitRange :=
  let run := (cs.takeWhile fun c => c == '0' || c == '@' || c == '#' || c == ',').filter (· != ',')
  ⟨(run.filter (· != '#')).length, run.length⟩

/-- The group sizes that the commas of a whole part set; without commas groups are so large that none
is seen. -/
def readGroups (whole : List Char) : Nat × Nat :=
  match (Text.splitChars ',' whole).reverse with
  | last :: middle :: _ :: _ => (last.length, middle.length)
  | [last, _] => (last.length, last.length)
  | _ => (1000, 1000)

/-- The whole part and the fraction, cut at the last point. -/
def cutAtPoint (body : List Char) : List Char × List Char :=
  if body.contains '.' then
    (((body.reverse.dropWhile (· != '.')).drop 1).reverse,
      (body.reverse.takeWhile (· != '.')).reverse)
  else (body, [])

/-- The form of an exponent; none is written without placeholders or a plus sign. -/
def readExponent (cs : List Char) : Option ExponentForm :=
  if cs.isEmpty then none
  else some ⟨readDigitRange (cs.dropWhile (· == '+')), cs.head? == some '+'⟩

/-! ## Patterns -/

/-- The pattern that a text denotes; significant digits and a point exclude each other. -/
def read? (pattern : String) : Option NumberPattern :=
  let cs := pattern.toList
  let (positive, number) := readParts (cs.takeWhile (· != ';'))
  let negative :=
    if cs.contains ';' then (readParts ((cs.dropWhile (· != ';')).drop 1)).1
    else ⟨'-' :: positive.before, positive.after⟩
  let body := number.takeWhile (· != 'E')
  let (whole, fraction) := cutAtPoint body
  if body.contains '@' && body.contains '.' && body.contains '0' then none
  else
    some {
      positive, negative
      hasNumber := !body.isEmpty
      isSignificant := cs.contains '@'
      whole := readDigitRange whole
      fraction := readDigitRange fraction
      exponent := readExponent ((number.dropWhile (· != 'E')).drop 1)
      groups := readGroups whole }

/-- The power of ten by which numbers are multiplied before they are written. -/
def scale (p : NumberPattern) : Nat :=
  let affixes := p.positive.before ++ p.negative.before ++ p.positive.after ++ p.negative.after
  if affixes.contains '%' then 2 else if affixes.contains '‰' then 3 else 0

end NumberPattern
end ReceiptTemplate
