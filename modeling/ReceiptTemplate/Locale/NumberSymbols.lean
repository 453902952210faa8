import ReceiptTemplate.Locale.Basic

/-!
# Number symbols — how a locale writes the parts of a number

Points, group separators, signs and the mark before an exponent, for Western digits.
-/

namespace ReceiptTemplate

structure NumberSymbols where
  decimal : Char
  group : Char
  minus : String
  plus : String
  exponential : String
deriving DecidableEq

namespace NumberSymbols

/-- Symbols that differ from others only in the point and the group separator. -/
def ofSeparators (decimal group : Char) : NumberSymbols :=
  ⟨decimal, group, "-", "+", "E"⟩

/-- A point, a comma between groups and ASCII signs. -/
def standard : NumberSymbols := ofSeparators '.' ','

/-- Symbols that differ from the standard ones. -/
def table : Entries NumberSymbols :=
  [("de", ofSeparators ',' '.'),
   ("de_CH", ofSeparators '.' '\u2019'),
   ("es", ofSeparators ',' '.'),
   ("es_419", ofSeparators '.' ','),
   ("fr", ofSeparators ',' '\u202f'),
   ("he", ⟨'.', ',', "\u200e-", "\u200e+", "E"⟩),
   ("nb", ⟨',', '\u00a0', "\u2212", "+", "E"⟩),
   ("no", ⟨',', '\u00a0', "\u2212", "+", "E"⟩),
   ("pl", ofSeparators ',' '\u00a0'),
   ("pt", ofSeparators ',' '.'),
   ("pt_PT", ofSeparators ',' '\u00a0'),
   ("ru", ofSeparators ',' '\u00a0'),
   ("sr", ofSeparators ',' '.'),
   ("sv", ⟨',', '\u00a0', "\u2212", "+", "\u00d710^"⟩)]

end NumberSymbols

/-- The number symbols of a locale. -/
def Locale.symbols (l : Locale) : NumberSymbols :=
  l.findData NumberSymbols.table NumberSymbols.standard

end ReceiptTemplate
