import ReceiptTemplate.Locale.Basic

/-!
# Calendar names — how a locale names and orders the parts of a date

Names come in several widths, and months, quarters and weekdays also in a form that stands alone.
Weekdays start at Monday.  A locale without names of its own takes those of English.
-/

namespace ReceiptTemplate

inductive NameWidth where
  | abbreviated | wide | narrow | short
deriving DecidableEq

/-- Names in each width; a width without names has none to fall back on. -/
structure NameTable where
  abbreviated : List String
  wide : List String
  narrow : List String
  short : List String

namespace NameTable

def names (t : NameTable) : NameWidth → List String
  | .abbreviated => t.abbreviated
  | .wide => t.wide
  | .narrow => t.narrow
  | .short => t.short

def name? (t : NameTable) (w : NameWidth) (i : Nat) : Option String :=
  (t.names w)[i]?

end NameTable

/-- The names of a part of the date inside a date and on their own. -/
structure NameForms where
  inDate : NameTable
  alone : NameTable

/-- The first day of the week, counted from Monday, and how many days of its first week a year or
month must have. -/
structure WeekRule where
  firstDay : Nat
  minDays : Nat

/-- A length in which whole dates and times are written. -/
inductive DateLength where
  | short | medium | long | full
deriving DecidableEq

/-- A pattern for each length. -/
structure LengthPatterns where
  short : String
  medium : String
  long : String
  full : String

def LengthPatterns.get (p : LengthPatterns) : DateLength → String
  | .short => p.short
  | .medium => p.medium
  | .long => p.long
  | .full => p.full

structure CalendarNames where
  week : WeekRule
  months : NameForms
  quarters : NameForms
  days : NameForms
  /-- The names of the current era. -/
  era : NameTable
  /-- The names of the two halves of a day. -/
  halves : NameTable
  /-- The name of universal time. -/
  universalTime : String
  dates : LengthPatterns
  times : LengthPatterns

namespace CalendarNames

/-! ## English -/

def english : CalendarNames where
  week := ⟨0, 1⟩
  months :=
    let table : NameTable := {
      abbreviated := ["Jan", "Feb", "Mar", "Apr", "May", "Jun", "Jul", "Aug", "Sep", "Oct", "Nov",
        "Dec"]
      wide := ["January", "February", "March", "April", "May", "June", "July", "August",
        "September", "October", "November", "December"]
      narrow := ["J", "F", "M", "A", "M", "J", "J", "A", "S", "O", "N", "D"]
      short := [] }
    ⟨table, table⟩
  quarters :=
    let table : NameTable := {
      abbreviated := ["Q1", "Q2", "Q3", "Q4"]
      wide := ["1st quarter", "2nd quarter", "3rd quarter", "4th quarter"]
      narrow := ["1", "2", "3", "4"]
      short := [] }
    ⟨table, table⟩
  days :=
    let table : NameTable := {
      abbreviated := ["Mon", "Tue", "Wed", "Thu", "Fri", "Sat", "Sun"]
      wide := ["Monday", "Tuesday", "Wednesday", "Thursday", "Friday", "Saturday", "Sunday"]
      narrow := ["M", "T", "W", "T", "F", "S", "S"]
      short := ["Mo", "Tu", "We", "Th", "Fr", "Sa", "Su"] }
    ⟨table, table⟩
  era := ⟨["AD"], ["Anno Domini"], ["A"], []⟩
  halves := ⟨["AM", "PM"], ["AM", "PM"], ["a", "p"], []⟩
  universalTime := "Coordinated Universal Time"
  dates := ⟨"M/d/yy", "MMM d, y", "MMMM d, y", "EEEE, MMMM d, y"⟩
  times := ⟨"h:mm\u202fa", "h:mm:ss\u202fa", "h:mm:ss\u202fa z", "h:mm:ss\u202fa zzzz"⟩

def american : CalendarNames :=
  { english with week := ⟨6, 1⟩ }

def british : CalendarNames :=
  { english with
    week := ⟨0, 4⟩
    months :=
      let table : NameTable := { english.months.inDate with
        abbreviated := ["Jan", "Feb", "Mar", "Apr", "May", "Jun", "Jul", "Aug", "Sept", "Oct",
          "Nov", "Dec"] }
      ⟨table, table⟩
    halves := ⟨["am", "pm"], ["am", "pm"], ["a", "p"], []⟩
    dates := ⟨"dd/MM/y", "d MMM y", "d MMMM y", "EEEE, d MMMM y"⟩
    times := ⟨"HH:mm", "HH:mm:ss", "HH:mm:ss z", "HH:mm:ss zzzz"⟩ }

/-! ## German -/

def german : CalendarNames where
  week := ⟨0, 4⟩
  months :=
    let table : NameTable := {
      abbreviated := ["Jan.", "Feb.", "März", "Apr.", "Mai", "Juni", "Juli", "Aug.", "Sept.",
        "Okt.", "Nov.", "Dez."]
      wide := ["Januar", "Februar", "März", "April", "Mai", "Juni", "Juli", "August", "September",
        "Oktober", "November", "Dezember"]
      narrow := ["J", "F", "M", "A", "M", "J", "J", "A", "S", "O", "N", "D"]
      short := [] }
    ⟨table, { table with
      abbreviated := ["Jan", "Feb", "Mär", "Apr", "Mai", "Jun", "Jul", "Aug", "Sep", "Okt", "Nov",
        "Dez"] }⟩
  quarters :=
    let table : NameTable := {
      abbreviated := ["Q1", "Q2", "Q3", "Q4"]
      wide := ["1. Quartal", "2. Quartal", "3. Quartal", "4. Quartal"]
      narrow := ["1", "2", "3", "4"]
      short := [] }
    ⟨table, table⟩
  days :=
    let table : NameTable := {
      abbreviated := ["Mo.", "Di.", "Mi.", "Do.", "Fr.", "Sa.", "So."]
      wide := ["Montag", "Dienstag", "Mittwoch", "Donnerstag", "Freitag", "Samstag", "Sonntag"]
      narrow := ["M", "D", "M", "D", "F", "S", "S"]
      short := ["Mo.", "Di.", "Mi.", "Do.", "Fr.", "Sa.", "So."] }
    ⟨table, { table with abbreviated := ["Mo", "Di", "Mi", "Do", "Fr", "Sa", "So"] }⟩
  era := ⟨["n. Chr."], ["unserer Zeitrechnung"], ["n. Chr."], []⟩
  halves := ⟨["AM", "PM"], [], [], []⟩
  universalTime := "Koordinierte Weltzeit"
  dates := ⟨"dd.MM.yy", "dd.MM.y", "d. MMMM y", "EEEE, d. MMMM y"⟩
  times := ⟨"HH:mm", "HH:mm:ss", "HH:mm:ss z", "HH:mm:ss zzzz"⟩

def table : Entries CalendarNames :=
  [("de", german), ("en_GB", british), ("en_US", american)]

end CalendarNames

/-- The calendar names of a locale. -/
def Locale.calendar (l : Locale) : CalendarNames :=
  l.findData CalendarNames.table CalendarNames.english

end ReceiptTemplate
