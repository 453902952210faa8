import ReceiptTemplate.Unicode.Printable

/-!
# Quoted text — a text as a literal that shows every character

The literal stands in single quotes, or in double quotes when it holds a single quote and no double
quote.  Backslash and the quote in use are escaped; so is every character that would not print.
-/

namespace ReceiptTemplate
namespace Text

open Unicode (isPrintable)

/-- The number in base sixteen, with at least `width` digits. -/
def hexDigits (width n : Nat) : List Char :=
  let digits := Nat.toDigits 16 n
  List.replicate (width - digits.length) '0' ++ digits

/-- The quote of the literal of a text. -/
def quoteOf (cs : List Char) : Char :=
  if cs.contains '\'' && !cs.contains '"' then '"' else '\''

def quoteChar (quote c : Char) : List Char :=
  if c = quote || c = '\\' then ['\\', c]
  else if c = '\t' then ['\\', 't']
  else if c = '\n' then ['\\', 'n']
  else if c = '\r' then ['\\', 'r']
  else if isPrintable c then [c]
  else if c.toNat < 0x100 then '\\' :: 'x' :: hexDigits 2 c.toNat
  else if c.toNat < 0x10000 then '\\' :: 'u' :: hexDigits 4 c.toNat
  else '\\' :: 'U' :: hexDigits 8 c.toNat

/-- The text as a quoted literal. -/
def quoted (s : String) : String :=
  let cs := s.toList
  let quote := quoteOf cs
  String.ofList (quote :: cs.flatMap (quoteChar quote) ++ [quote])

end Text
end ReceiptTemplate
