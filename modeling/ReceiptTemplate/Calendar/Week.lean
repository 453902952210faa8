import ReceiptTemplate.Calendar.Date
import ReceiptTemplate.Calendar.Names

/-!
# Weeks — numbers of weeks in a month or a year

A week belongs to the month or year if enough of its days do.  The days before the first such week have
number zero in a month; in a year they belong to the last week of the year before, as the last days
of a year can belong to the first week of the next.  The years before 1 and after 9999 have no weeks.
-/

namespace ReceiptTemplate
namespace WeekRule

/-- The week of the day with a number, counted from one, in its month or year. -/
def weekNumber (r : WeekRule) (dayNumber weekday : Nat) : Nat :=
  let lead := (((weekday : Int) - r.firstDay - dayNumber + 1) % 7).toNat
  let week := (dayNumber + lead - 1) / 7
  if r.minDays ≤ 7 - lead then week + 1 else week

def weekOfMonth (r : WeekRule) (d : Date) : Nat :=
  r.weekNumber d.day d.weekday

/-- The week of the year, where the neighbouring year that decides it exists. -/
def weekOfYear? (r : WeekRule) (d : Date) : Option Nat :=
  let week := r.weekNumber d.dayOfYear d.weekday
  if week = 0 then
    if d.year ≤ 1 then none
    else
      let last : Date := ⟨d.year - 1, 12, 31⟩
      some (r.weekNumber last.dayOfYear last.weekday)
  else if 52 < week then
    if 9999 ≤ d.year then none
    else
      let next := (⟨d.year + 1, 1, 1⟩ : Date).weekday
      let since := (((next : Int) - r.firstDay) % 7).toNat
      if r.weekNumber 1 next = 1 ∧ 32 - since ≤ d.day then some 1 else some week
  else some week

/-- The year to which the week of a day belongs. -/
def weekYear? (r : WeekRule) (d : Date) : Option Nat :=
  if d.month = 1 ∧ d.day < 7 then
    (r.weekOfYear? d).map fun week => if 52 ≤ week then d.year - 1 else d.year
  else if d.month = 12 ∧ 25 < d.day then
    (r.weekOfYear? d).map fun week => if week ≤ 2 then d.year + 1 else d.year
  else some d.year

end WeekRule
end ReceiptTemplate
