import ReceiptTemplate.Unicode.Range

/-!
# Blanks — the characters that separate tokens and that stripping removes

The class holds the ASCII controls from tab to carriage return, the four information separators,
the space, the next-line control, and the Unicode space separators and line breaks.  The zero-width
space and the byte order mark are not blanks.
-/

namespace ReceiptTemplate
namespace Unicode

/-- Ranges of the blank characters. -/
def blankRanges : List Range :=
  [(0x9, 0xD), (0x1C, 0x20), (0x85, 0x85), (0xA0, 0xA0), (0x1680, 0x1680), (0x2000, 0x200A),
   (0x2028, 0x2029), (0x202F, 0x202F), (0x205F, 0x205F), (0x3000, 0x3000)]

/-- Whether a character is a blank. -/
def isBlank (c : Char) : Bool :=
  inRanges blankRanges c.toNat

/-- Whether a character is a blank and no information separator; these may stand around a number. -/
def isNumberBlank (c : Char) : Bool :=
  isBlank c && !(0x1C ≤ c.toNat && c.toNat ≤ 0x1F)

end Unicode
end ReceiptTemplate
