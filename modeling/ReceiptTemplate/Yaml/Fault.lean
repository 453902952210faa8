import ReceiptTemplate.Text.Integer
import ReceiptTemplate.Text.Quoted
import ReceiptTemplate.Yaml.Token

/-!
# YAML faults — why a data file can not be read, and where

A fault has a problem with its place and, where one is known, what was being read with the place where it
began.  Places are shown as lines and columns counted from one.
-/

namespace ReceiptTemplate
namespace Yaml

/-- What was being read. -/
inductive Activity where
  | nextToken | simpleKey | quotedScalar | doubleQuotedScalar | blockScalar
  | anchor | alias | tag | directive
  | tagName | directiveName
  | node | blockNode | flowNode
  | flowSequence | flowMapping | blockCollection | blockMapping
  | constructingMapping | constructingOrderedMap | constructingPairs
  | singleDocument
  | duplicateAnchor (name : String)
deriving DecidableEq

def Activity.text : Activity → String
  | .nextToken => "while scanning for the next token"
  | .simpleKey => "while scanning a simple key"
  | .quotedScalar => "while scanning a quoted scalar"
  | .doubleQuotedScalar => "while scanning a double-quoted scalar"
  | .blockScalar => "while scanning a block scalar"
  | .anchor => "while scanning an anchor"
  | .alias => "while scanning an alias"
  | .tag => "while scanning a tag"
  | .directive => "while scanning a directive"
  | .tagName => "while parsing a tag"
  | .directiveName => "while parsing a directive"
  | .node => "while parsing a node"
  | .blockNode => "while parsing a block node"
  | .flowNode => "while parsing a flow node"
  | .flowSequence => "while parsing a flow sequence"
  | .flowMapping => "while parsing a flow mapping"
  | .blockCollection => "while parsing a block collection"
  | .blockMapping => "while parsing a block mapping"
  | .constructingMapping => "while constructing a mapping"
  | .constructingOrderedMap => "while constructing an ordered map"
  | .constructingPairs => "while constructing pairs"
  | .singleDocument => "expected a single document in the stream"
  | .duplicateAnchor name => s!"found duplicate anchor {Text.quoted name}; first occurrence"

inductive Problem where
  | badStart (c : Char)
  | noColon
  | entryNotAllowed | keyNotAllowed | valueNotAllowed
  | endOfStream | documentMark
  | badHex (count : Nat) (found : Option Char)
  | badEscape (found : Option Char)
  | zeroIndent
  | badHeader (found : Option Char)
  | badHeaderLine (found : Option Char)
  | badName (found : Option Char)
  | noBlank (found : Option Char)
  | noBang (found : Option Char)
  | noTagEnd (found : Option Char)
  | noTagName (found : Option Char)
  | noDigit (found : Option Char)
  | noVersionPoint (found : Option Char)
  | noVersionEnd (found : Option Char)
  | secondVersion | badVersion
  | secondHandle (handle : String)
  | unknownHandle (handle : String)
  | noContent (found : Token)
  | noSequenceComma (found : Token)
  | noMappingComma (found : Token)
  | noBlockEnd (found : Token)
  | noDocumentStart (found : Token)
  | anotherDocument
  | secondAnchor
  | unknownAlias (name : String)
  | unhashableKey
  | noScalar (found : String)
  | noSequence (found : String)
  | noMapping (found : String)
  | noPairs (found : String)
  | noPair (found : String)
  | noSinglePair (count : Nat)
  | unknownTag (tag : String)
  | noMergeMapping (found : String)
  | noMergeList (found : String)
deriving DecidableEq

/-- A character as a literal; the end of the text counts as the null character. -/
def shownChar (c : Option Char) : String :=
  Text.quoted (String.ofList [c.getD '\x00'])

def Problem.text : Problem → String
  | .badStart c => s!"found character {shownChar (some c)} that cannot start any token"
  | .noColon => "could not find expected ':'"
  | .entryNotAllowed => "sequence entries are not allowed here"
  | .keyNotAllowed => "mapping keys are not allowed here"
  | .valueNotAllowed => "mapping values are not allowed here"
  | .endOfStream => "found unexpected end of stream"
  | .documentMark => "found unexpected document separator"
  | .badHex count found =>
    s!"expected escape sequence of {count} hexadecimal numbers, but found {shownChar found}"
  | .badEscape found => s!"found unknown escape character {shownChar found}"
  | .zeroIndent => "expected indentation indicator in the range 1-9, but found 0"
  | .badHeader found => s!"expected chomping or indentation indicators, but found {shownChar found}"
  | .badHeaderLine found => s!"expected a comment or a line break, but found {shownChar found}"
  | .badName found => s!"expected alphabetic or numeric character, but found {shownChar found}"
  | .noBlank found => s!"expected ' ', but found {shownChar found}"
  | .noBang found => s!"expected '!', but found {shownChar found}"
  | .noTagEnd found => s!"expected '>', but found {shownChar found}"
  | .noTagName found => s!"expected URI, but found {shownChar found}"
  | .noDigit found => s!"expected a digit, but found {shownChar found}"
  | .noVersionPoint found => s!"expected a digit or '.', but found {shownChar found}"
  | .noVersionEnd found => s!"expected a digit or ' ', but found {shownChar found}"
  | .secondVersion => "found duplicate YAML directive"
  | .badVersion => "found incompatible YAML document (version 1.* is required)"
  | .secondHandle handle => s!"duplicate tag handle {Text.quoted handle}"
  | .unknownHandle handle => s!"found undefined tag handle {Text.quoted handle}"
  | .noContent found => s!"expected the node content, but found {Text.quoted found.shown}"
  | .noSequenceComma found => s!"expected ',' or ']', but got {Text.quoted found.shown}"
  | .noMappingComma found => s!"expected ',' or '\x7d', but got {Text.quoted found.shown}"
  | .noBlockEnd found => s!"expected <block end>, but found {Text.quoted found.shown}"
  | .noDocumentStart found => s!"expected '<document start>', but found {Text.quoted found.shown}"
  | .anotherDocument => "but found another document"
  | .secondAnchor => "second occurrence"
  | .unknownAlias name => s!"found undefined alias {Text.quoted name}"
  | .unhashableKey => "found unhashable key"
  | .noScalar found => s!"expected a scalar node, but found {found}"
  | .noSequence found => s!"expected a sequence node, but found {found}"
  | .noMapping found => s!"expected a mapping node, but found {found}"
  | .noPairs found => s!"expected a sequence, but found {found}"
  | .noPair found => s!"expected a mapping of length 1, but found {found}"
  | .noSinglePair count => s!"expected a single mapping item, but found {count} items"
  | .unknownTag tag => s!"could not determine a constructor for the tag {Text.quoted tag}"
  | .noMergeMapping found => s!"expected a mapping for merging, but found {found}"
  | .noMergeList found => s!"expected a mapping or list of mappings for merging, but found {found}"

structure Fault where
  activity : Option (Activity × Place)
  problem : Problem
  place : Place
deriving DecidableEq

namespace Fault

/-- A place in a file. -/
def placeText (file : String) (p : Place) : String :=
  s!"  in \"{file}\", line {p.line + 1}, column {p.column + 1}"

/-- The lines of the message.  A problem at the place where the reading began names it once. -/
def message (file : String) (f : Fault) : String :=
  let context :=
    match f.activity with
    | some (a, p) => if p = f.place then [a.text] else [a.text, placeText file p]
    | none => []
  String.intercalate "\n" (context ++ [f.problem.text, placeText file f.place])

end Fault
end Yaml
end ReceiptTemplate
