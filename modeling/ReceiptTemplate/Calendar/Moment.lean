import ReceiptTemplate.Calendar.Date

/-!
# Moments — a date, a time of day and an offset, and their text forms

A moment is read from the basic and extended forms of a date, `20240315` and `2024-03-15`, or from a
week date, `2024-W11-5`.  Any one character separates a time of one to three fields, with or without
colons, a fraction of a second cut to microseconds, and an offset or `Z`.  A moment without an offset
counts as universal time.
-/

namespace ReceiptTemplate

/-- A point in time; the offset from universal time is in microseconds. -/
structure Moment where
  date : Date
  hour : Nat
  minute : Nat
  second : Nat
  microsecond : Nat
  offset : Option Int
deriving DecidableEq

namespace Moment

open Text (readDigits digitsOf padZeros)

/-! ## Fields of digits -/

/-- Exactly `n` ASCII digits and what follows them. -/
def digits? (n : Nat) (cs : List Char) : Option (Nat × List Char) :=
  if (cs.take n).length = n ∧ (cs.take n).all Char.isDigit then
    some (readDigits (cs.take n), cs.drop n)
  else none

/-- A hyphen if the form uses them. -/
def hyphen? (expected : Bool) (cs : List Char) : Option (List Char) :=
  match expected, cs with
  | true, '-' :: rest => some rest
  | true, _ => none
  | false, _ => some cs

/-! ## Dates -/

/-- Where the date ends and the separator stands.  A week date with a hyphen before digits is taken
for a week followed by a time. -/
def dateLength (cs : List Char) : Nat :=
  let isDigitAt (i : Nat) : Bool := (cs[i]?.map Char.isDigit).getD false
  if cs.length = 7 then 7
  else if cs[4]? = some '-' then
    if cs[5]? = some 'W' then
      if cs[8]? = some '-' then if isDigitAt 10 then 8 else 10 else 8
    else 10
  else if cs[4]? = some 'W' then
    let ends := 7 + ((cs.drop 7).takeWhile Char.isDigit).length
    if ends < 9 then ends else if ends % 2 = 0 then 7 else 8
  else 8

/-- The date at the start of a text, in one of its forms. -/
def readDate? (cs : List Char) : Option Date := do
  let (year, cs) ← digits? 4 cs
  let extended := cs.head? == some '-'
  let cs ← hyphen? extended cs
  match cs with
  | 'W' :: cs =>
    let (week, cs) ← digits? 2 cs
    if cs.isEmpty then Date.ofWeek? year week 1
    else
      let cs ← hyphen? extended cs
      let (day, _) ← digits? 1 cs
      Date.ofWeek? year week day
  | cs =>
    let (month, cs) ← digits? 2 cs
    let cs ← hyphen? extended cs
    let (day, _) ← digits? 2 cs
    some ⟨year, month, day⟩

/-! ## Times -/

/-- Hours, minutes, seconds and microseconds, not yet checked for their ranges. -/
structure Clock where
  hour : Nat
  minute : Nat
  second : Nat
  microsecond : Nat

/-- What follows the fields of a clock. -/
inductive ClockTail where
  | finished (leftover : Bool)
  | fraction (cs : List Char)

/-- Up to `n` fields of two digits.  Whether colons stand between them is decided after the first. -/
def readFields : Nat → Option Bool → List Char → Option (List Nat × ClockTail)
  | 0, _, cs => some ([], .fraction cs)
  | n + 1, colons?, cs =>
    match digits? 2 cs with
    | none => none
    | some (v, []) => some ([v], .finished false)
    | some (v, [_]) => some ([v], .finished true)
    | some (v, c :: rest) =>
      let colons := colons?.getD (c == ':')
      if colons && c == ':' then
        (readFields n (some colons) rest).map fun p => (v :: p.1, p.2)
      else if c = '.' || c = ',' then some ([v], .fraction rest)
      else if colons then none
      else (readFields n (some colons) (c :: rest)).map fun p => (v :: p.1, p.2)

/-- A clock, and whether characters are left over after it. -/
def readClock? (cs : List Char) : Option (Clock × Bool) := do
  let (fields, tail) ← readFields 3 none cs
  let (microsecond, leftover) ←
    match tail with
    | .finished leftover => some (0, leftover)
    | .fraction cs =>
      let n := min 6 cs.length
      (digits? n cs).map fun p => (p.1 * Nat.pow 10 (6 - n), !(p.2.dropWhile Char.isDigit).isEmpty)
  some (⟨fields[0]?.getD 0, fields[1]?.getD 0, fields[2]?.getD 0, microsecond⟩, leftover)

/-- Whether a character starts an offset. -/
def startsOffset (c : Char) : Bool :=
  c == '+' || c == '-' || c == 'Z'

/-- Microseconds of the offset that a clock stands for; a whole offset of zero seconds is zero. -/
def offsetOf (negative : Bool) (c : Clock) : Int :=
  let seconds := c.hour * 3600 + c.minute * 60 + c.second
  let total : Int := if seconds = 0 then 0 else seconds * 1000000 + c.microsecond
  if negative then -total else total

/-- A time of day and its offset. -/
def readTime? (cs : List Char) : Option (Clock × Option Int) := do
  let (clock, leftover) ← readClock? (cs.takeWhile (!startsOffset ·))
  match cs.dropWhile (!startsOffset ·) with
  | [] => if leftover then none else some (clock, none)
  | 'Z' :: rest => if rest.isEmpty then some (clock, some 0) else none
  | sign :: rest =>
    let (shift, leftover) ← readClock? rest
    let offset := offsetOf (sign == '-') shift
    if leftover || 86400000000 ≤ offset.natAbs then none else some (clock, some offset)

/-- Whether date and time lie in their ranges. -/
def isValid (m : Moment) : Bool :=
  m.date.isValid && m.hour < 24 && m.minute < 60 && m.second < 60

/-- The moment that a text denotes.  A character counts once for each of its bytes after the
separator. -/
def read? (s : String) : Option Moment := do
  let cs := s.toList
  let n := dateLength cs
  let date ← readDate? (cs.take n)
  let (clock, offset) ←
    match cs.drop n with
    | [] => some (⟨0, 0, 0, 0⟩, none)
    | _ :: rest => readTime? (rest.flatMap fun c => List.replicate c.utf8Size c)
  let m : Moment := ⟨date, clock.hour, clock.minute, clock.second, clock.microsecond, offset⟩
  if m.isValid then some m else none

/-- The sizes that the text of a date alone can have. -/
def daySizes : List Nat := [7, 8, 10]

/-- The date that a text denotes.  Only the size of the text tells that no time follows, so characters
after a short form go unnoticed. -/
def readDay? (s : String) : Option Date := do
  let d ← if daySizes.contains s.utf8ByteSize then readDate? s.toList else none
  if d.isValid then some d else none

/-! ## Text -/

/-- Sign, hours and minutes of an offset, with seconds where it has any. -/
def offsetText (offset : Int) : List Char :=
  let total := offset.natAbs
  let two n := padZeros 2 (digitsOf n)
  let micro := total % 1000000
  let seconds := total / 1000000
  (if offset < 0 then '-' else '+') :: two (seconds / 3600) ++ ':' :: two (seconds / 60 % 60) ++
    (if seconds % 60 = 0 ∧ micro = 0 then [] else ':' :: two (seconds % 60)) ++
    (if micro = 0 then [] else '.' :: padZeros 6 (digitsOf micro))

/-- Date and time with `separator` between them. -/
def textWith (separator : Char) (m : Moment) : String :=
  let two n := padZeros 2 (digitsOf n)
  String.ofList (m.date.text.toList ++ separator :: two m.hour ++ ':' :: two m.minute ++
    ':' :: two m.second ++
    (if m.microsecond = 0 then [] else '.' :: padZeros 6 (digitsOf m.microsecond)) ++
    (match m.offset with
    | none => []
    | some o => offsetText o))

def text (m : Moment) : String :=
  m.textWith 'T'

end Moment
end ReceiptTemplate
