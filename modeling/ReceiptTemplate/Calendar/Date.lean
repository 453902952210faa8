import ReceiptTemplate.Text.Integer

/-!
# Dates — the proleptic Gregorian calendar

Days are numbered from 1, the first of January of year 1, which is a Monday.  Weekdays count from
Monday, which is zero.
-/

namespace ReceiptTemplate

/-- A day of the calendar. -/
structure Date where
  year : Nat
  month : Nat
  day : Nat
deriving DecidableEq, Inhabited

namespace Date

def isLeap (year : Nat) : Bool :=
  year % 4 == 0 && (year % 100 != 0 || year % 400 == 0)

def daysInMonth (year month : Nat) : Nat :=
  match month with
  | 2 => if isLeap year then 29 else 28
  | 4 | 6 | 9 | 11 => 30
  | _ => 31

/-- Whether the day exists, in a year from 1 to 9999. -/
def isValid (d : Date) : Bool :=
  1 ≤ d.year && d.year ≤ 9999 && 1 ≤ d.month && d.month ≤ 12 && 1 ≤ d.day &&
    d.day ≤ daysInMonth d.year d.month

/-! ## Day numbers -/

/-- Days before the first of January. -/
def daysBeforeYear (year : Nat) : Nat :=
  let y := year - 1
  365 * y + y / 4 - y / 100 + y / 400

/-- Days of the year before the first of the month. -/
def daysBeforeMonth (year month : Nat) : Nat :=
  (List.range (month - 1)).foldl (fun n m => n + daysInMonth year (m + 1)) 0

def dayOfYear (d : Date) : Nat :=
  daysBeforeMonth d.year d.month + d.day

def ordinal (d : Date) : Nat :=
  daysBeforeYear d.year + d.dayOfYear

def weekdayOfOrdinal (n : Nat) : Nat :=
  (n + 6) % 7

def weekday (d : Date) : Nat :=
  weekdayOfOrdinal d.ordinal

/-- The month and day of a day of the year, which counts from zero. -/
def monthDay (year : Nat) : Nat → Nat → Nat → Nat × Nat
  | 0, month, rest => (month, rest + 1)
  | fuel + 1, month, rest =>
    if rest < daysInMonth year month then (month, rest + 1)
    else monthDay year fuel (month + 1) (rest - daysInMonth year month)

/-- The day with a given number. -/
def ofOrdinal (n : Nat) : Date :=
  let r := n - 1
  let guess := r / 366 + 1
  let year := (List.range (r / 366 / 365 + 3)).foldl
    (fun y _ => if daysBeforeYear (y + 1) ≤ r then y + 1 else y) guess
  let (month, day) := monthDay year 12 1 (r - daysBeforeYear year)
  ⟨year, month, day⟩

/-! ## Weeks -/

/-- The number of the Monday that starts the first week of a year, the week of its first Thursday. -/
def firstMonday (year : Nat) : Nat :=
  let first := (⟨year, 1, 1⟩ : Date).ordinal
  let w := weekdayOfOrdinal first
  if w ≤ 3 then first - w else first + 7 - w

/-- Whether a year has a fifty-third week. -/
def hasLongYear (year : Nat) : Bool :=
  let w := (⟨year, 1, 1⟩ : Date).weekday
  w == 3 || (w == 2 && isLeap year)

/-- The day of a week date; `none` if the year has no such week or the week no such day. -/
def ofWeek? (year week day : Nat) : Option Date :=
  if year < 1 || 9999 < year || week < 1 || 53 < week || (week == 53 && !hasLongYear year)
      || day < 1 || 7 < day then none
  else some (ofOrdinal (firstMonday year + (week - 1) * 7 + (day - 1)))

/-! ## Text -/

/-- Year, month and day with hyphens between them. -/
def text (d : Date) : String :=
  let two n := Text.padZeros 2 (Text.digitsOf n)
  String.ofList (Text.padZeros 4 (Text.digitsOf d.year) ++ '-' :: two d.month ++ '-' :: two d.day)

end Date
end ReceiptTemplate
