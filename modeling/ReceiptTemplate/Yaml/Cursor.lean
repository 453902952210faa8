/-!
# Cursors — places in the text of a data file

A cursor is the text that is still to be read and the place where it starts.  Lines end at a line feed, a
next-line control and the Unicode line and paragraph separators; a byte order mark takes no column.
-/

namespace ReceiptTemplate
namespace Yaml

/-- A line and a column, both counted from zero. -/
structure Place where
  line : Nat
  column : Nat
deriving DecidableEq, Inhabited

structure Cursor where
  rest : List Char
  place : Place
  /-- How many characters have been read. -/
  index : Nat

def isBreak (c : Char) : Bool :=
  c == '\n' || c == '\x85' || c == '\u2028' || c == '\u2029'

/-- Whether a line ends before what comes next. -/
def endsLine : Option Char → Bool
  | none => true
  | some c => isBreak c

/-- Whether a word ends before what comes next. -/
def endsWord : Option Char → Bool
  | none => true
  | some c => c == ' ' || c == '\t' || isBreak c

namespace Cursor

def ofText (s : String) : Cursor :=
  ⟨s.toList, ⟨0, 0⟩, 0⟩

def peek (c : Cursor) : Option Char :=
  c.rest.head?

/-- The character `n` places further on. -/
def peekAt (c : Cursor) (n : Nat) : Option Char :=
  c.rest[n]?

def column (c : Cursor) : Int :=
  c.place.column

/-- The place after a character. -/
def placeAfter (p : Place) (ch : Char) : Place :=
  if isBreak ch then ⟨p.line + 1, 0⟩ else if ch = '\ufeff' then p else ⟨p.line, p.column + 1⟩

/-- The cursor after `n` characters. -/
def skip (n : Nat) (c : Cursor) : Cursor :=
  let passed := c.rest.take n
  ⟨c.rest.drop n, passed.foldl placeAfter c.place, c.index + passed.length⟩

/-- The characters up to the first one that does not fit, and the cursor after them. -/
def takeWhile (fits : Char → Bool) (c : Cursor) : List Char × Cursor :=
  let cs := c.rest.takeWhile fits
  (cs, c.skip cs.length)

def skipWhile (fits : Char → Bool) (c : Cursor) : Cursor :=
  (c.takeWhile fits).2

/-- A line break, which counts as a line feed unless it is a separator, and the cursor after it. -/
def lineBreak? (c : Cursor) : Option (Char × Cursor) :=
  match c.peek with
  | some ch =>
    if isBreak ch then some (if ch = '\x85' then '\n' else ch, c.skip 1) else none
  | none => none

/-- The cursor after a line break, if there is one. -/
def skipBreak (c : Cursor) : Cursor :=
  match c.lineBreak? with
  | some (_, c) => c
  | none => c

/-- Whether the text goes on with a mark between documents, at the start of a line. -/
def atDocumentMark (c : Cursor) : Bool :=
  (c.rest.take 3 == ['-', '-', '-'] || c.rest.take 3 == ['.', '.', '.']) && endsWord (c.peekAt 3)

end Cursor
end Yaml
end ReceiptTemplate
