import ReceiptTemplate.Binary64.Basic
import ReceiptTemplate.Calendar.Moment
import ReceiptTemplate.Calendar.Pattern
import ReceiptTemplate.Calendar.Week

/-!
# Formatting moments — fields written in the names of a locale

`DateItem.write?` writes one item and `Moment.format?` a pattern, or one of the four lengths in which
the locale writes whole dates and times.  A moment in a week of a year that does not exist has no text.
-/

namespace ReceiptTemplate
namespace Moment

open Text (digitsOf padZeros)

/-! ## Numbers and names -/

/-- Digits filled up to a width. -/
def number (width n : Nat) : List Char :=
  padZeros width (digitsOf n)

/-- The last two digits of a year in a field of two letters. -/
def yearChars (length year : Nat) : List Char :=
  let cs := number length year
  if length = 2 then cs.drop (cs.length - 2) else cs

/-- The width of a name in a field of three letters or more. -/
def nameWidth (length : Nat) : NameWidth :=
  match length with
  | 4 => .wide
  | 5 => .narrow
  | 6 => .short
  | _ => .abbreviated

def nameChars? (t : NameTable) (length i : Nat) : Option (List Char) :=
  (t.name? (nameWidth length) i).map String.toList

/-- A number in a field of one or two letters, a name in a longer one. -/
def numberOrName? (t : NameTable) (length i : Nat) : Option (List Char) :=
  if length ≤ 2 then some (number length (i + 1)) else nameChars? t length i

/-- The name of the half of the day; a width without names takes those of another width. -/
def halfChars? (t : NameTable) (length hour : Nat) : Option (List Char) :=
  ([nameWidth (max 3 length), .wide, .narrow, .abbreviated].findSome? fun w =>
    t.name? w (if hour < 12 then 0 else 1)).map String.toList

/-! ## Times -/

/-- The fraction of the second as `length` digits.  It is scaled and cut in double precision. -/
def fractionChars (length microsecond : Nat) : List Char :=
  let fraction := Binary64.roundPlaces length (Binary64.ofQuotient microsecond 1000000)
  number length (fraction.mul (Binary64.ofQuotient (Nat.pow 10 length) 1)).floor

def millisecondOfDay (m : Moment) : Nat :=
  m.microsecond / 1000 + m.second * 1000 + m.minute * 60000 + m.hour * 3600000

/-! ## Offsets -/

/-- The form of an offset: hours alone where they suffice, or hours and minutes. -/
inductive OffsetForm where
  | shortest | compact | extended
deriving DecidableEq

/-- Whole seconds of the offset; a moment without one is in universal time. -/
def offsetSeconds (m : Moment) : Int :=
  Int.fdiv (m.offset.getD 0) 1000000

def isUniversal (m : Moment) : Bool :=
  m.offset.getD 0 == 0

/-- Hours with a sign, and minutes after them.  Both are cut toward the past. -/
def offsetChars (form : OffsetForm) (m : Moment) : List Char :=
  let hours := Int.fdiv m.offsetSeconds 3600
  let rest := (Int.fmod m.offsetSeconds 3600).toNat
  let sign := if hours < 0 then '-' else '+'
  let written := sign :: number 2 hours.natAbs
  let minutes := number 2 (rest / 60)
  match form with
  | .shortest => if rest = 0 then written else written ++ minutes
  | .compact => written ++ minutes
  | .extended => written ++ ':' :: minutes

/-- The offset, or `Z` where it is zero. -/
def offsetOrZ (form : OffsetForm) (m : Moment) : List Char :=
  if m.offsetSeconds = 0 then ['Z'] else m.offsetChars form

/-- The offset from Greenwich time. -/
def greenwichChars (m : Moment) : List Char :=
  'G' :: 'M' :: 'T' :: m.offsetChars .extended

/-- The form of an offset in a field of a length. -/
def offsetForm (length : Nat) : OffsetForm :=
  match length with
  | 1 => .shortest
  | 2 | 4 => .compact
  | _ => .extended

/-- The zone as a name for universal time and as an offset otherwise. -/
def zoneChars (names : CalendarNames) (length : Nat) (m : Moment) : List Char :=
  if length < 4 then if m.isUniversal then ['U', 'T', 'C'] else m.offsetChars .compact
  else if m.isUniversal then names.universalTime.toList else m.greenwichChars

/-! ## Fields -/

/-- The weekday as a number counted from the first day of the week, in a field of one or two small
letters, and as a name otherwise. -/
def weekdayChars? (names : CalendarNames) (letter : Char) (length : Nat) (d : Date) :
    Option (List Char) :=
  if length < 3 ∧ letter ≠ 'E' then
    some (number length ((7 - names.week.firstDay + d.weekday) % 7 + 1))
  else
    nameChars? (if letter = 'c' then names.days.alone else names.days.inDate) (max 3 length) d.weekday

/-- The text of a field. -/
def field? (names : CalendarNames) (letter : Char) (length : Nat) (m : Moment) :
    Option (List Char) :=
  let d := m.date
  match letter with
  | 'G' => nameChars? names.era (max 3 length) 0
  | 'y' | 'u' => some (yearChars length d.year)
  | 'Y' => (names.week.weekYear? d).map (yearChars length)
  | 'Q' => numberOrName? names.quarters.inDate length ((d.month - 1) / 3)
  | 'q' => numberOrName? names.quarters.alone length ((d.month - 1) / 3)
  | 'M' => numberOrName? names.months.inDate length (d.month - 1)
  | 'L' => numberOrName? names.months.alone length (d.month - 1)
  | 'w' => (names.week.weekOfYear? d).map (number length)
  | 'W' => some (number 1 (names.week.weekOfMonth d))
  | 'd' => some (number length d.day)
  | 'D' => some (number length d.dayOfYear)
  | 'F' => some (number 1 ((d.day - 1) / 7 + 1))
  | 'E' | 'e' | 'c' => weekdayChars? names letter length d
  | 'a' | 'b' | 'B' => halfChars? names.halves length m.hour
  | 'h' => some (number length (if m.hour % 12 = 0 then 12 else m.hour % 12))
  | 'H' => some (number length m.hour)
  | 'K' => some (number length (m.hour % 12))
  | 'k' => some (number length (if m.hour = 0 then 24 else m.hour))
  | 'm' => some (number length m.minute)
  | 's' => some (number length m.second)
  | 'S' => some (fractionChars length m.microsecond)
  | 'A' => some (number length m.millisecondOfDay)
  | 'z' | 'v' | 'V' => some (m.zoneChars names length)
  | 'Z' =>
    some (if length < 4 then m.offsetChars .compact
      else if length = 4 then m.greenwichChars else m.offsetOrZ .extended)
  | 'O' => some (if length = 4 then m.greenwichChars else "None".toList)
  | 'X' => some (m.offsetOrZ (offsetForm length))
  | 'x' => some (m.offsetChars (offsetForm length))
  | _ => none

end Moment

/-! ## Patterns -/

/-- The length that a word names. -/
def DateLength.ofName? : String → Option DateLength
  | "short" => some .short
  | "medium" => some .medium
  | "long" => some .long
  | "full" => some .full
  | _ => none

/-- The text of an item. -/
def DateItem.write? (names : CalendarNames) (m : Moment) : DateItem → Option (List Char)
  | .literal c => some [c]
  | .field letter length => m.field? names letter length

namespace Moment

/-- The moment written by a pattern. -/
def formatPattern? (names : CalendarNames) (pattern : String) (m : Moment) : Option String := do
  let items ← DateItem.read? pattern
  let parts ← items.mapM (DateItem.write? names m)
  some (String.ofList parts.flatten)

/-- The moment written in one of the four lengths, or else by a pattern. -/
def format? (names : CalendarNames) (spec : String) (m : Moment) : Option String :=
  match DateLength.ofName? spec with
  | some length => do
    let date ← m.formatPattern? names (names.dates.get length)
    let time ← m.formatPattern? names (names.times.get length)
    some (date ++ ", " ++ time)
  | none => m.formatPattern? names spec

end Moment
end ReceiptTemplate
