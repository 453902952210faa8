import ReceiptTemplate.Locale.Basic
import ReceiptTemplate.Number.Pattern

/-!
# Decimal patterns — how a locale writes a number of no special kind

Nearly every locale parts the whole digits in threes and writes up to three decimal places,
`#,##0.###`.  One leaves the digits together and writes up to six places, `0.######`.
-/

namespace ReceiptTemplate
namespace NumberPattern

/-- A number without affixes: one whole digit at least, and the decimal places that are needed. -/
def decimal (groups : Nat × Nat) (whole : DigitRange) (places : Nat) : NumberPattern where
  positive := ⟨[], []⟩
  negative := ⟨['-'], []⟩
  hasNumber := true
  isSignificant := false
  whole := whole
  fraction := ⟨0, places⟩
  exponent := none
  groups := groups

/-- Groups of three digits and up to three decimal places. -/
def grouped : NumberPattern := decimal (3, 3) ⟨1, 4⟩ 3

/-- Digits that are left together and up to six decimal places. -/
def ungrouped : NumberPattern := decimal (1000, 1000) ⟨1, 1⟩ 6

/-- Decimal patterns that differ from the grouped one. -/
def decimalTable : Entries NumberPattern :=
  [("en_US_POSIX", ungrouped)]

end NumberPattern

/-- The pattern of a locale for decimal numbers. -/
def Locale.decimalPattern (l : Locale) : NumberPattern :=
  l.findData NumberPattern.decimalTable .grouped

end ReceiptTemplate
