import ReceiptTemplate.Yaml.NodeProperty

/-!
# Token stream — the tokens of a data file

Blocks are known by the column at which they start: a token further to the left closes them.  A key that
is not marked is known only by the colon after it, so the place of every token that may be such a key is
remembered until its line ends; when the colon comes, the token for a key, and one for the start of a
mapping, are put in front of it.  A reader of tokens gets no token that may still be preceded in that way,
so a fault hides those from the first possible key on.
-/

namespace ReceiptTemplate
namespace Yaml

/-- A token that may turn out to be a key. -/
structure PossibleKey where
  /-- The number of the token. -/
  number : Nat
  /-- Whether nothing else can stand there. -/
  isRequired : Bool
  /-- How many characters stand before it. -/
  index : Nat
  place : Place

structure Scan where
  cursor : Cursor
  tokens : Array PlacedToken
  /-- How many brackets are open. -/
  flowLevel : Nat
  /-- The columns of the open blocks, innermost first. -/
  columns : List Nat
  /-- Whether a key may start here. -/
  allowsKey : Bool
  /-- The possible keys by the number of brackets around them. -/
  keys : List (Nat × PossibleKey)

namespace Scan

def ofText (s : String) : Scan :=
  let c := Cursor.ofText s
  ⟨if c.peek = some '\ufeff' then c.skip 1 else c, #[], 0, [], true, []⟩

def inFlow (s : Scan) : Bool :=
  s.flowLevel != 0

/-- The column of the innermost block; without one it lies left of the text. -/
def indent (s : Scan) : Int :=
  match s.columns with
  | n :: _ => n
  | [] => -1

def place (s : Scan) : Place :=
  s.cursor.place

def peek (s : Scan) : Option Char :=
  s.cursor.peek

def emit (t : Token) (p : Place) (s : Scan) : Scan :=
  { s with tokens := s.tokens.push ⟨t, p⟩ }

/-- A token of `n` characters. -/
def emitMark (t : Token) (n : Nat) (s : Scan) : Scan :=
  { s.emit t s.place with cursor := s.cursor.skip n }

def allowing (allowsKey : Bool) (s : Scan) : Scan :=
  { s with allowsKey }

/-! ## Blocks -/

/-- Closes the open blocks that a column is not part of. -/
def closeBlocks (leaves : Nat → Bool) (s : Scan) : Scan :=
  let s' := { s with columns := s.columns.dropWhile leaves }
  (s.columns.takeWhile leaves).foldl (fun s _ => s.emit .blockEnd s.place) s'

/-- Closes the blocks to the right of the cursor; inside brackets there are none. -/
def unindent (s : Scan) : Scan :=
  if s.inFlow then s else s.closeBlocks fun n => decide (s.place.column < n)

def closeAllBlocks (s : Scan) : Scan :=
  if s.inFlow then s else s.closeBlocks fun _ => true

/-- Opens a block at the cursor unless one is open there. -/
def openBlock (t : Token) (s : Scan) : Scan :=
  if s.indent < s.cursor.column then
    { s.emit t s.place with columns := s.place.column :: s.columns }
  else s

/-! ## Possible keys -/

def noColon (s : Scan) (k : PossibleKey) : Fault :=
  ⟨some (.simpleKey, k.place), .noColon, s.place⟩

/-- A possible key ends with its line and is at most this long. -/
def maxKeyLength : Nat := 1024

def isStale (s : Scan) (k : PossibleKey) : Bool :=
  k.place.line != s.place.line || maxKeyLength < s.cursor.index - k.index

/-- Forgets the possible keys that can no longer be one. -/
def dropStaleKeys (s : Scan) : Except Fault Scan :=
  match s.keys.find? fun p => s.isStale p.2 && p.2.isRequired with
  | some p => .error (s.noColon p.2)
  | none => .ok { s with keys := s.keys.filter fun p => !s.isStale p.2 }

/-- The possible key between the same brackets as the cursor. -/
def key? (s : Scan) : Option PossibleKey :=
  (s.keys.find? (·.1 == s.flowLevel)).map (·.2)

def forgetKey (s : Scan) : Scan :=
  { s with keys := s.keys.filter (·.1 != s.flowLevel) }

/-- Gives up the possible key between the same brackets. -/
def dropKey (s : Scan) : Except Fault Scan :=
  match s.key? with
  | some k => if k.isRequired then .error (s.noColon k) else .ok s.forgetKey
  | none => .ok s

/-- Remembers that the next token may be a key. -/
def saveKey (s : Scan) : Except Fault Scan :=
  if !s.allowsKey then .ok s
  else do
    let isRequired := !s.inFlow && s.indent == s.cursor.column
    let s ← s.dropKey
    .ok { s with
      keys := (s.flowLevel, ⟨s.tokens.size, isRequired, s.cursor.index, s.place⟩) :: s.keys }

/-! ## Tokens -/

/-- The cursor after blanks, comments and line breaks.  A new line may start with a key. -/
def skipToToken : Nat → Scan → Scan
  | 0, s => s
  | fuel + 1, s =>
    let c := s.cursor.skipWhile (· == ' ')
    let c := if c.peek = some '#' then c.skipWhile (!isBreak ·) else c
    match c.lineBreak? with
    | none => { s with cursor := c }
    | some (_, c) => skipToToken fuel { s with cursor := c, allowsKey := s.allowsKey || !s.inFlow }

def endOfStream (s : Scan) : Except Fault Scan := do
  let s ← s.closeAllBlocks.dropKey
  .ok ({ s with allowsKey := false, keys := [] }.emit .streamEnd s.place)

def scanDirective (s : Scan) : Except Fault Scan := do
  let s ← s.closeAllBlocks.dropKey
  let (d, c) ← directive s.cursor
  .ok { (s.allowing false).emit (.directive d) s.place with cursor := c }

def documentMark (t : Token) (s : Scan) : Except Fault Scan := do
  let s ← s.closeAllBlocks.dropKey
  .ok ((s.allowing false).emitMark t 3)

def openBracket (t : Token) (s : Scan) : Except Fault Scan := do
  let s ← s.saveKey
  .ok ({ s with flowLevel := s.flowLevel + 1, allowsKey := true }.emitMark t 1)

def closeBracket (t : Token) (s : Scan) : Except Fault Scan := do
  let s ← s.dropKey
  .ok ({ s with flowLevel := s.flowLevel - 1, allowsKey := false }.emitMark t 1)

def comma (s : Scan) : Except Fault Scan := do
  let s ← (s.allowing true).dropKey
  .ok (s.emitMark .flowEntry 1)

/-- A dash before an entry of a sequence. -/
def dash (s : Scan) : Except Fault Scan := do
  if !s.inFlow && !s.allowsKey then .error ⟨none, .entryNotAllowed, s.place⟩
  else
    let s := if s.inFlow then s else s.openBlock .blockSequenceStart
    let s ← (s.allowing true).dropKey
    .ok (s.emitMark .blockEntry 1)

/-- The mark of a key. -/
def keyMark (s : Scan) : Except Fault Scan := do
  if !s.inFlow && !s.allowsKey then .error ⟨none, .keyNotAllowed, s.place⟩
  else
    let s := if s.inFlow then s else s.openBlock .blockMappingStart
    let s ← (s.allowing !s.inFlow).dropKey
    .ok (s.emitMark .key 1)

/-- The scan with the token for a key in front of a token that turned out to be one, and with the start
of a mapping if none is open there. -/
def insertKey (k : PossibleKey) (s : Scan) : Scan :=
  let opens := !s.inFlow && decide (s.indent < (k.place.column : Int))
  let tokens := s.tokens.insertIdxIfInBounds k.number ⟨.key, k.place⟩
  { s with
    tokens :=
      if opens then tokens.insertIdxIfInBounds k.number ⟨.blockMappingStart, k.place⟩ else tokens
    columns := if opens then k.place.column :: s.columns else s.columns
    allowsKey := false }

/-- The colon before a value. -/
def colon (s : Scan) : Except Fault Scan :=
  match s.key? with
  | some k => .ok ((s.forgetKey.insertKey k).emitMark .value 1)
  | none => do
    if !s.inFlow && !s.allowsKey then .error ⟨none, .valueNotAllowed, s.place⟩
    else
      let s := if s.inFlow then s else s.openBlock .blockMappingStart
      let s ← (s.allowing !s.inFlow).dropKey
      .ok (s.emitMark .value 1)

/-- A token that may be a key. -/
def wordToken (read : Cursor → Except Fault (Token × Cursor)) (s : Scan) : Except Fault Scan := do
  let s ← s.saveKey
  let (t, c) ← read s.cursor
  .ok { (s.allowing false).emit t s.place with cursor := c }

def blockScalar (s : Scan) : Except Fault Scan := do
  let s ← (s.allowing true).dropKey
  let (cs, c) ← blockText s.indent s.cursor
  .ok { s.emit (.scalar (String.ofList cs) false) s.place with cursor := c }

/-- A plain text; after it a key may start if it ends at the start of a line. -/
def plainScalar (s : Scan) : Except Fault Scan := do
  let s ← s.saveKey
  let (cs, atLineStart, c) := plainText s.inFlow (s.indent + 1) s.cursor
  .ok { (s.allowing atLineStart).emit (.scalar (String.ofList cs) true) s.place with cursor := c }

/-- Whether a character can start a plain text whatever follows. -/
def startsPlain (c : Char) : Bool :=
  !(endsWord (some c) || "-?:,[]#&*!|>'\"%@".toList.contains c || isFlowMark c || c == '\x60')

/-- Whether a plain text starts here: a dash, a question mark or a colon starts one before a word. -/
def atPlain (s : Scan) (c : Char) : Bool :=
  startsPlain c ||
    (!endsWord (s.cursor.peekAt 1) && (c == '-' || (!s.inFlow && (c == '?' || c == ':'))))

/-- Whether a mark stands alone; inside brackets it may stand before a word. -/
def atMark (s : Scan) : Bool :=
  s.inFlow || endsWord (s.cursor.peekAt 1)

/-- The token that starts with the character at the cursor. -/
def tokenAt (c : Char) (s : Scan) : Except Fault Scan :=
  let atMargin := s.place.column == 0
  if c = '%' ∧ atMargin then s.scanDirective
  else if c = '-' ∧ atMargin ∧ s.cursor.atDocumentMark then s.documentMark .documentStart
  else if c = '.' ∧ atMargin ∧ s.cursor.atDocumentMark then s.documentMark .documentEnd
  else if c = '[' then s.openBracket .flowSequenceStart
  else if c = '\x7b' then s.openBracket .flowMappingStart
  else if c = ']' then s.closeBracket .flowSequenceEnd
  else if c = '\x7d' then s.closeBracket .flowMappingEnd
  else if c = ',' then s.comma
  else if c = '-' ∧ endsWord (s.cursor.peekAt 1) then s.dash
  else if c = '?' ∧ s.atMark then s.keyMark
  else if c = ':' ∧ s.atMark then s.colon
  else if c = '*' then s.wordToken fun c => (nodeName .alias c).map fun p => (.alias p.1, p.2)
  else if c = '&' then s.wordToken fun c => (nodeName .anchor c).map fun p => (.anchor p.1, p.2)
  else if c = '!' then s.wordToken tag
  else if (c = '|' ∨ c = '>') ∧ !s.inFlow then s.blockScalar
  else if c = '\'' ∨ c = '"' then
    s.wordToken fun c => (quotedText c).map fun p => (.scalar (String.ofList p.1) false, p.2)
  else if s.atPlain c then s.plainScalar
  else .error ⟨some (.nextToken, s.place), .badStart c, s.place⟩

/-- The scan after the next token. -/
def next (s : Scan) : Except Fault Scan := do
  let s ← (skipToToken (s.cursor.rest.length + 1) s).dropStaleKeys
  let s := s.unindent
  let s ← (match s.peek with
    | none => s.endOfStream
    | some c => s.tokenAt c)
  s.dropStaleKeys

/-- The tokens that a reader gets before more of the text has been read: none from the first possible key
on. -/
def settled (s : Scan) : List PlacedToken :=
  match (s.keys.map fun p => p.2.number).min? with
  | some n => s.tokens.toList.take n
  | none => s.tokens.toList

def isFinished (s : Scan) : Bool :=
  match s.tokens.back? with
  | some t => t.token = .streamEnd
  | none => false

/-- All tokens, or those before a fault. -/
def run : Nat → Scan → List PlacedToken × Option Fault
  | 0, s => (s.settled, none)
  | fuel + 1, s =>
    match s.next with
    | .error f => (s.settled, some f)
    | .ok s' => if s'.isFinished then (s'.tokens.toList, none) else run fuel s'

end Scan

/-- The tokens of a text, and the fault that ends them early. -/
def tokens (s : String) : List PlacedToken × Option Fault :=
  Scan.run (s.toList.length + 2) (.ofText s)

end Yaml
end ReceiptTemplate
