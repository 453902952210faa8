import ReceiptTemplate.Calendar.Format
import ReceiptTemplate.Filter.Basic

/-!
# Number filters — fixed places and patterns

`currency` groups and keeps two decimal places, `number` keeps a given number of places, and `format`
applies a pattern to a number or to the text of a date.  Numbers are rounded half away from zero before
the pattern is applied, in a precision that grows with the number.  A zero is written without a sign.
-/

namespace ReceiptTemplate
namespace Filter

open Unicode (isDecimalDigit)

/-! ## Rounding -/

/-- The precision in which every place of a number fits. -/
def workingPrecision (places margin : Nat) (d : Decimal) : Nat :=
  max 28 (d.adjusted + places + margin).toNat

def workingLimits (places margin : Nat) (d : Decimal) : Decimal.Limits :=
  .withPrecision (workingPrecision places margin d)

/-- A zero with all of its places and without a sign; any other number stays. -/
def settleZero (places : Nat) (r : Decimal) : Decimal :=
  if r.isZero then ⟨false, 0, -places⟩ else r

/-- The number rounded to decimal places.  A number can take more digits than there are in any precision,
and a zero with a large exponent takes them as well. -/
def roundHalfUp (places : Nat) (d : Decimal) : Except FilterFault Decimal :=
  if Decimal.Limits.maxPrecision < workingPrecision places 2 d then
    .error (.unreadableNumber .boundless)
  else
    match Decimal.roundWithin? (workingLimits places 2 d) .awayFromZero places d with
    | none => .error (.unwritable .imprecise)
    | some r => .ok (settleZero places r)

/-- The number rounded to decimal places and written by a pattern. -/
def writeNumber (p : NumberPattern) (places : Nat) (l : Locale) (d : Decimal) :
    Except FilterFault Value :=
  match roundHalfUp places d with
  | .error fault => .error fault
  | .ok r =>
    match p.format (workingLimits places 6 r) l.symbols r with
    | .ok s => .ok (.text s)
    | .error fault => .error (.unwritable fault)

/-! ## Fixed places -/

/-- A fixed number of decimal places, with groups of three digits or without groups. -/
def fixedPattern (places : Nat) (isGrouped isPercent : Bool) : NumberPattern :=
  let after := if isPercent then ['%'] else []
  { positive := ⟨[], after⟩
    negative := ⟨['-'], after⟩
    hasNumber := true
    isSignificant := false
    whole := if isGrouped then ⟨1, 4⟩ else ⟨1, 1⟩
    fraction := ⟨places, places⟩
    exponent := .none
    groups := if isGrouped then (3, 3) else (1000, 1000) }

def currency : FilterFunction
  | .number d, _, l => writeNumber (fixedPattern 2 true false) 2 l d
  | _, _, _ => .ok .null

/-- The whole number that an argument denotes. -/
def integerArgument? : Option Value → Option Int
  | some (.number d) => some d.whole
  | some (.text s) => Text.readInteger? (Text.strip s)
  | _ => Option.none

/-- A whole number cut to a range that starts at zero. -/
def clamp (high : Nat) (n : Int) : Nat :=
  min high n.toNat

/-- The most decimal places that `number` writes. -/
def maxPlaces : Nat := 20

def number : FilterFunction
  | .number d, args, l =>
    let places := clamp maxPlaces ((integerArgument? args.positional).getD 0)
    writeNumber (fixedPattern places false false) places l d
  | _, _, _ => .ok .null

/-! ## Patterns -/

/-- The most characters of a format that are read. -/
def maxFormatLength : Nat := 100

/-- The text without its quoted parts; a quote that is not closed stays. -/
def dropQuoted (cs : List Char) : List Char :=
  match cs with
  | [] => []
  | c :: tail =>
    if c = '\'' then
      match _h : Text.breakOn ['\''] tail with
      | some (_, rest) => dropQuoted rest
      | Option.none => cs
    else c :: dropQuoted tail
termination_by cs.length
decreasing_by
  · have := Text.length_after_of_breakOn (List.cons_ne_nil _ _) ‹_›
    simp only [List.length_cons]
    omega
  · simp

/-- Whether a format is a pattern for numbers: it has a digit placeholder and no letter but `E`. -/
def isNumberPattern (cs : List Char) : Bool :=
  let bare := dropQuoted cs
  !(bare.any fun c => c.isAlpha && c != 'E') && bare.any fun c => c == '0' || c == '#'

/-- The decimal places of a shorthand of a letter and at most two digits, two if it has no digits. -/
def shorthandPlaces? (digits : List Char) : Option Nat :=
  if digits.length ≤ 2 && digits.all isDecimalDigit then
    some (if digits.isEmpty then 2 else Text.readDigits digits)
  else Option.none

/-- How a format says that a number is written. -/
inductive NumberFormat where
  | pattern (text : String) (p : NumberPattern)
  | fixed (places : Nat) (isGrouped isPercent : Bool)
  /-- No format for numbers. -/
  | unsupported
  /-- A pattern that is none. -/
  | invalid

/-- The format of a shorthand letter. -/
def NumberFormat.ofLetter (letter : Char) (places : Nat) : NumberFormat :=
  match letter.toUpper with
  | 'N' => .fixed places true false
  | 'F' => .fixed places false false
  | 'P' => .fixed places true true
  | _ => .unsupported

/-- The format of a text without a shorthand. -/
def NumberFormat.ofPattern (spec : String) : NumberFormat :=
  if isNumberPattern spec.toList then
    match NumberPattern.read? spec with
    | some p => .pattern spec p
    | Option.none => .invalid
  else .unsupported

def NumberFormat.read (spec : String) : NumberFormat :=
  match spec.toList with
  | c :: digits =>
    if c.isAlpha then
      match shorthandPlaces? digits with
      | some places => .ofLetter c places
      | Option.none => .ofPattern spec
    else .ofPattern spec
  | [] => .ofPattern spec

/-- The places to which a number is rounded before a pattern is applied: those of the pattern, and as
many more as a sign anywhere in it scales by. -/
def patternPlaces (text : String) (p : NumberPattern) : Nat :=
  let cs := text.toList
  p.fraction.most + (if cs.contains '%' then 2 else if cs.contains '‰' then 3 else 0)

/-- The number in a format, if the format is one for numbers. -/
def formatNumber (spec : String) (l : Locale) (d : Decimal) : Except FilterFault Value :=
  match NumberFormat.read spec with
  | .pattern text p => writeNumber p (patternPlaces text p) l d
  | .fixed places isGrouped isPercent =>
    writeNumber (fixedPattern places isGrouped isPercent) (if isPercent then places + 2 else places)
      l d
  | .unsupported | .invalid => .ok (.number d)

/-- The date that a text denotes in a format; another text, and a format for no date, leave the text as
it is. -/
def formatDate (spec : String) (l : Locale) (s : String) : Value :=
  match Moment.read? (Text.strip s) with
  | Option.none => .text s
  | some m => .text ((m.format? l.calendar spec).getD s)

/-- The format that the arguments give. -/
def formatSpec? (args : FilterArguments) : Option String :=
  match args.positional with
  | some (.text s) => if s = "" then Option.none else some (Text.take maxFormatLength s)
  | _ => Option.none

def format : FilterFunction
  | v, args, l =>
    match formatSpec? args, v with
    | some spec, .number d => formatNumber spec l d
    | some spec, .text s => .ok (formatDate spec l s)
    | _, v => .ok v

/-- A remark on a format that was passed over. -/
def formatNotes (v : Value) (args : FilterArguments) (l : Locale) : List String :=
  match formatSpec? args, v with
  | some spec, .number _ =>
    match NumberFormat.read spec with
    | .unsupported => [s!"Unsupported number format {Text.quoted spec}"]
    | .invalid => [s!"Ignoring invalid number format {Text.quoted spec}"]
    | _ => []
  | some spec, .text s =>
    match Moment.read? (Text.strip s) with
    | some m =>
      if (m.format? l.calendar spec).isNone then
        [s!"Ignoring invalid date format {Text.quoted spec}"]
      else []
    | Option.none => []
  | _, _ => []

end Filter
end ReceiptTemplate
