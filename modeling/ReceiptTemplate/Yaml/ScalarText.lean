import ReceiptTemplate.Yaml.Fault

/-!
# Scalar texts — the three ways to write a text in a data file

A quoted text ends at its quote, a plain one where a character would mean something else, and a block one
where the indentation ends.  In the first two a single line break counts as a blank and blank lines keep
their breaks; a literal block keeps all breaks.  The functions here read a text from its first character
on and give the cursor after it.
-/

namespace ReceiptTemplate
namespace Yaml

def isBlankChar (c : Char) : Bool :=
  c == ' ' || c == '\t'

/-- A line break and the breaks of the blank lines after it, as a text shows them. -/
def fold (first : Char) (more : List Char) : List Char :=
  if first != '\n' then first :: more else if more.isEmpty then [' '] else more

/-- The character with a code; a code without one gives the replacement character. -/
def charOfCode (n : Nat) : Char :=
  if n.isValidChar then Char.ofNat n else '\ufffd'

/-! ## Quoted texts -/

/-- What a letter after a backslash stands for. -/
def escaped? : Char → Option Char
  | '0' => some '\x00'
  | 'a' => some '\x07'
  | 'b' => some '\x08'
  | 't' => some '\t'
  | '\t' => some '\t'
  | 'n' => some '\n'
  | 'v' => some '\x0b'
  | 'f' => some '\x0c'
  | 'r' => some '\r'
  | 'e' => some '\x1b'
  | ' ' => some ' '
  | '"' => some '"'
  | '\\' => some '\\'
  | '/' => some '/'
  | 'N' => some '\x85'
  | '_' => some '\xa0'
  | 'L' => some '\u2028'
  | 'P' => some '\u2029'
  | _ => none

/-- How many hexadecimal digits follow a letter after a backslash. -/
def hexCount? : Char → Option Nat
  | 'x' => some 2
  | 'u' => some 4
  | 'U' => some 8
  | _ => none

def hexDigit? (c : Char) : Option Nat :=
  if c.isDigit then some (c.toNat - '0'.toNat)
  else if 'a' ≤ c ∧ c ≤ 'f' then some (c.toNat - 'a'.toNat + 10)
  else if 'A' ≤ c ∧ c ≤ 'F' then some (c.toNat - 'A'.toNat + 10)
  else none

/-- The value of a run of hexadecimal digits. -/
def readHex (cs : List Char) : Nat :=
  cs.foldl (fun n c => 16 * n + (hexDigit? c).getD 0) 0

/-- The character with the code that the next `count` digits give. -/
def hexEscape (start : Place) (count : Nat) (c : Cursor) : Except Fault (Char × Cursor) :=
  let digits := (c.rest.take count).takeWhile fun ch => (hexDigit? ch).isSome
  if digits.length = count then .ok (charOfCode (readHex digits), c.skip count)
  else .error ⟨some (.doubleQuotedScalar, start), .badHex count (c.peekAt digits.length), c.place⟩

/-- The breaks of blank lines, and the cursor at the first word after them. -/
def quotedBreaks (start : Place) : Nat → Cursor → Except Fault (List Char × Cursor)
  | 0, c => .ok ([], c)
  | fuel + 1, c =>
    if c.atDocumentMark then .error ⟨some (.quotedScalar, start), .documentMark, c.place⟩
    else
      let c := c.skipWhile isBlankChar
      match c.lineBreak? with
      | none => .ok ([], c)
      | some (b, c) => (quotedBreaks start fuel c).map fun p => (b :: p.1, p.2)

/-- What stands for the blanks and breaks before the next word. -/
def quotedGap (start : Place) (c : Cursor) : Except Fault (List Char × Cursor) :=
  let (blanks, c) := c.takeWhile isBlankChar
  match c.lineBreak? with
  | some (b, c) => (quotedBreaks start (c.rest.length + 1) c).map fun p => (fold b p.1, p.2)
  | none =>
    if c.rest.isEmpty then .error ⟨some (.quotedScalar, start), .endOfStream, c.place⟩
    else .ok (blanks, c)

/-- What a backslash and the characters after it stand for; `c` is the cursor after the backslash.  A
line break after a backslash stands for nothing. -/
def escapeSequence (start : Place) (c : Cursor) : Except Fault (List Char × Cursor) :=
  match c.lineBreak? with
  | some (_, c) => quotedBreaks start (c.rest.length + 1) c
  | none =>
    match c.peek.bind escaped?, c.peek.bind hexCount? with
    | some ch, _ => .ok ([ch], c.skip 1)
    | none, some count => (hexEscape start count (c.skip 1)).map fun p => ([p.1], p.2)
    | none, none => .error ⟨some (.doubleQuotedScalar, start), .badEscape c.peek, c.place⟩

/-- The characters up to a blank, a break or the closing quote. -/
def quotedWord (quote : Char) (start : Place) : Nat → Cursor → Except Fault (List Char × Cursor)
  | 0, c => .ok ([], c)
  | fuel + 1, c => do
    if endsWord c.peek then .ok ([], c)
    else if quote = '"' ∧ c.peek = some '\\' then
      let (cs, c) ← escapeSequence start (c.skip 1)
      let (more, c) ← quotedWord quote start fuel c
      .ok (cs ++ more, c)
    else if c.peek = some quote then
      if quote = '\'' ∧ c.peekAt 1 = some quote then
        let (more, c) ← quotedWord quote start fuel (c.skip 2)
        .ok (quote :: more, c)
      else .ok ([], c)
    else
      let (more, after) ← quotedWord quote start fuel (c.skip 1)
      .ok (c.peek.toList ++ more, after)

/-- The words and gaps up to the closing quote. -/
def quotedRest (quote : Char) (start : Place) : Nat → Cursor → Except Fault (List Char × Cursor)
  | 0, c => .ok ([], c)
  | fuel + 1, c => do
    let (word, c) ← quotedWord quote start (c.rest.length + 1) c
    if c.peek = some quote then .ok (word, c.skip 1)
    else
      let (gap, c) ← quotedGap start c
      let (more, c) ← quotedRest quote start fuel c
      .ok (word ++ gap ++ more, c)

/-- A quoted text, from its opening quote on. -/
def quotedText (c : Cursor) : Except Fault (List Char × Cursor) :=
  quotedRest (c.peek.getD '"') c.place (c.rest.length + 1) (c.skip 1)

/-! ## Plain texts -/

/-- Characters that end a plain text inside brackets. -/
def isFlowMark (c : Char) : Bool :=
  c == ',' || c == '[' || c == ']' || c == '\x7b' || c == '\x7d'

/-- How many characters the word at the start of a text has. -/
def plainWordLength (inFlow : Bool) : List Char → Nat
  | [] => 0
  | c :: cs =>
    let endsKey := c == ':' && (endsWord cs.head? || (inFlow && cs.head?.any isFlowMark))
    if endsWord (some c) || endsKey || (inFlow && (c == '?' || isFlowMark c)) then 0
    else plainWordLength inFlow cs + 1

/-- The breaks of blank lines, and the cursor at the first word after them; at a mark between documents
there are none. -/
def plainBreaks : Nat → Cursor → Option (List Char) × Cursor
  | 0, c => (some [], c)
  | fuel + 1, c =>
    if c.atDocumentMark then (none, c)
    else
      let c := c.skipWhile (· == ' ')
      match c.lineBreak? with
      | none => (some [], c)
      | some (b, c) =>
        let (more, c) := plainBreaks fuel c
        (more.map (b :: ·), c)

/-- What stands for the blanks and breaks before the next word, whether there were breaks, and the cursor
after them. -/
def plainGap (c : Cursor) : List Char × Bool × Cursor :=
  let (blanks, c) := c.takeWhile (· == ' ')
  match c.lineBreak? with
  | none => (blanks, false, c)
  | some (b, c) =>
    let (more, c) := plainBreaks (c.rest.length + 1) c
    ((more.map (fold b)).getD [], true, c)

/-- The words of a plain text, whether it ends at the start of a line, and the cursor after it.  Words on
further lines are indented by at least `indent`. -/
def plainRest (inFlow : Bool) (indent : Int) (gap : List Char) (atLineStart : Bool) :
    Nat → Cursor → List Char × Bool × Cursor
  | 0, c => ([], atLineStart, c)
  | fuel + 1, c =>
    let n := if c.peek = some '#' then 0 else plainWordLength inFlow c.rest
    if n = 0 then ([], atLineStart, c)
    else
      let word := gap ++ c.rest.take n
      let (gap, atLineStart, c) := plainGap (c.skip n)
      if gap.isEmpty || c.peek = some '#' || (!inFlow && c.column < indent) then (word, atLineStart, c)
      else
        let (more, atLineStart, c) := plainRest inFlow indent gap atLineStart fuel c
        (word ++ more, atLineStart, c)

def plainText (inFlow : Bool) (indent : Int) (c : Cursor) : List Char × Bool × Cursor :=
  plainRest inFlow indent [] false (c.rest.length + 1) c

/-! ## Block texts -/

/-- Which of the breaks at the end of a block text are kept. -/
inductive Chomping where
  | strip | clip | keep
deriving DecidableEq

/-- The header of a block text: chomping, and how far its lines are indented beyond the block around
it. -/
structure BlockHeader where
  chomping : Chomping
  increment : Option Nat

def chomping? : Option Char → Option Chomping
  | some '+' => some .keep
  | some '-' => some .strip
  | _ => none

/-- The digit that tells the indentation, if there is one. -/
def increment? (start : Place) (c : Cursor) : Except Fault (Option Nat × Cursor) :=
  match c.peek with
  | some d =>
    if d = '0' then .error ⟨some (.blockScalar, start), .zeroIndent, c.place⟩
    else if d.isDigit then .ok (some (d.toNat - '0'.toNat), c.skip 1)
    else .ok (none, c)
  | none => .ok (none, c)

/-- The header of a block text up to the end of its line. -/
def blockHeader (start : Place) (c : Cursor) : Except Fault (BlockHeader × Cursor) := do
  let first := chomping? c.peek
  let c := if first.isSome then c.skip 1 else c
  let (increment, c) ← increment? start c
  let second := if first.isNone && increment.isSome then chomping? c.peek else none
  let c := if second.isSome then c.skip 1 else c
  if !(c.peek == some ' ' || endsLine c.peek) then
    .error ⟨some (.blockScalar, start), .badHeader c.peek, c.place⟩
  else
    let c := c.skipWhile (· == ' ')
    let c := if c.peek = some '#' then c.skipWhile (!isBreak ·) else c
    if !endsLine c.peek then .error ⟨some (.blockScalar, start), .badHeaderLine c.peek, c.place⟩
    else .ok (⟨(first.or second).getD .clip, increment⟩, c.skipBreak)

/-- The breaks of blank lines before the first word, the widest column of a blank, and the cursor at the
word. -/
def blockLead (widest : Nat) : Nat → Cursor → List Char × Nat × Cursor
  | 0, c => ([], widest, c)
  | fuel + 1, c =>
    let c := c.skipWhile (· == ' ')
    let widest := max widest c.place.column
    match c.lineBreak? with
    | none => ([], widest, c)
    | some (b, c) =>
      let (more, widest, c) := blockLead widest fuel c
      (b :: more, widest, c)

/-- The breaks of blank lines between lines that are indented by `indent`. -/
def blockBreaks (indent : Nat) : Nat → Cursor → List Char × Cursor
  | 0, c => ([], c)
  | fuel + 1, c =>
    let blanks := (c.rest.take (indent - c.place.column)).takeWhile (· == ' ')
    let c := c.skip blanks.length
    match c.lineBreak? with
    | none => ([], c)
    | some (b, c) =>
      let (more, c) := blockBreaks indent fuel c
      (b :: more, c)

/-- The lines of a block text, the break of the last one, the breaks after it and the cursor there.
`breaks` stand before the first line. -/
def blockLines (folded : Bool) (indent : Nat) (breaks : List Char) :
    Nat → Cursor → List Char × List Char × List Char × Cursor
  | 0, c => ([], [], breaks, c)
  | fuel + 1, c =>
    let goesOn (c : Cursor) : Bool := c.place.column = indent && !c.rest.isEmpty
    if !goesOn c then ([], [], breaks, c)
    else
      let (line, c) := c.takeWhile (!isBreak ·)
      let lineBreak := (c.lineBreak?.map (·.1)).toList
      let (more, c) := blockBreaks indent (c.rest.length + 1) c.skipBreak
      if !goesOn c then (breaks ++ line, lineBreak, more, c)
      else
        let isFolded := folded && lineBreak == ['\n'] && !line.head?.any isBlankChar &&
          !c.peek.any isBlankChar
        let joint := if isFolded then (if more.isEmpty then [' '] else []) else lineBreak
        let (rest, last, tail, c) := blockLines folded indent more fuel c
        (breaks ++ line ++ joint ++ rest, last, tail, c)

/-- A block text, from its mark on, inside a block with the indentation `outer`. -/
def blockText (outer : Int) (c : Cursor) : Except Fault (List Char × Cursor) := do
  let folded := c.peek == some '>'
  let (header, c) ← blockHeader c.place (c.skip 1)
  let least := max 1 (outer + 1).toNat
  let (breaks, indent, c) :=
    match header.increment with
    | none =>
      let (breaks, widest, c) := blockLead 0 (c.rest.length + 1) c
      (breaks, max least widest, c)
    | some n =>
      let indent := least + n - 1
      let (breaks, c) := blockBreaks indent (c.rest.length + 1) c
      (breaks, indent, c)
  let (lines, last, tail, c) := blockLines folded indent breaks (c.rest.length + 1) c
  .ok (match header.chomping with
    | .strip => lines
    | .clip => lines ++ last
    | .keep => lines ++ last ++ tail, c)

end Yaml
end ReceiptTemplate
