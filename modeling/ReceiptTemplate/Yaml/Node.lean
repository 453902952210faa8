import ReceiptTemplate.Entries
import ReceiptTemplate.Yaml.ScalarKind
import ReceiptTemplate.Yaml.TokenStream

/-!
# Nodes — the tree that the tokens of a data file make up

A node is a scalar, a sequence or a mapping with a tag and the place where it starts.  Nodes are read from
tokens by recursive descent: brackets and block marks frame collections, a missing node counts as an empty
scalar, and an alias stands for the node that its anchor names.  A file holds at most one document.
-/

namespace ReceiptTemplate
namespace Yaml

/-- A tag as messages show it. -/
abbrev Tag := String

/-- What the standard tags begin with. -/
def tagStem : String := "tag:yaml.org,2002:"

inductive Node where
  | scalar (tag : Tag) (text : String) (place : Place)
  | sequence (tag : Tag) (items : List Node) (place : Place)
  | mapping (tag : Tag) (entries : List (Node × Node)) (place : Place)
deriving Inhabited

namespace Node

def place : Node → Place
  | .scalar _ _ p | .sequence _ _ p | .mapping _ _ p => p

def tag : Node → Tag
  | .scalar t _ _ | .sequence t _ _ | .mapping t _ _ => t

/-- How a node is named in a message. -/
def shown : Node → String
  | .scalar .. => "scalar"
  | .sequence .. => "sequence"
  | .mapping .. => "mapping"

end Node

/-- The tag of a kind of scalar. -/
def ScalarKind.tag (k : ScalarKind) : Tag :=
  tagStem ++ (match k with
    | .bool => "bool"
    | .float => "float"
    | .int => "int"
    | .merge => "merge"
    | .null => "null"
    | .timestamp => "timestamp"
    | .default => "value"
    | .text => "str")

/-! ## Reading tokens -/

/-- A node that an anchor names; while it is still being read there is none. -/
structure Anchored where
  place : Place
  node : Option Node

/-- What is left to read. -/
structure Feed where
  tokens : List PlacedToken
  /-- Why there are no more tokens. -/
  fault : Option Fault
  anchors : Entries Anchored
  handles : Entries String

abbrev Reader := StateT Feed (Except Fault)

namespace Reader

def fail {α : Type} (activity : Option (Activity × Place)) (problem : Problem) (place : Place) :
    Reader α :=
  throw ⟨activity, problem, place⟩

/-- The next token.  The last one of a text without faults is never consumed. -/
def peek : Reader PlacedToken := do
  let feed ← get
  match feed.tokens, feed.fault with
  | t :: _, _ => return t
  | [], some fault => throw fault
  | [], none => return ⟨.streamEnd, ⟨0, 0⟩⟩

def peekToken : Reader Token :=
  return (← peek).token

def advance : Reader Unit :=
  modify fun feed => { feed with tokens := feed.tokens.drop 1 }

/-- The place after a mark of one character. -/
def afterMark (p : Place) : Place :=
  ⟨p.line, p.column + 1⟩

/-- A node that is not written. -/
def emptyScalar (p : Place) : Node :=
  .scalar ScalarKind.null.tag "" p

/-! ## Anchors and tags -/

/-- What stands before the content of a node. -/
structure Properties where
  anchor : Option String
  tag : Option Tag
  /-- Where they start. -/
  start : Option Place

/-- The complete tag, with what its handle stands for. -/
def completeTag (start place : Place) (handle : Option String) (name : String) : Reader Tag := do
  match handle with
  | none => return name
  | some h =>
    match (← get).handles.get? h with
    | some stem => return stem ++ name
    | none => fail (some (.node, start)) (.unknownHandle h) place

def properties : Reader Properties := do
  let first ← peek
  match first.token with
  | .anchor name =>
    advance
    let second ← peek
    match second.token with
    | .tag handle text =>
      advance
      let t ← completeTag first.place second.place handle text
      return ⟨some name, some t, some first.place⟩
    | _ => return ⟨some name, none, some first.place⟩
  | .tag handle text =>
    advance
    let second ← peek
    let anchor ←
      match second.token with
      | .anchor name => do
        advance
        pure (some name)
      | _ => pure none
    let t ← completeTag first.place first.place handle text
    return ⟨anchor, some t, some first.place⟩
  | _ => return ⟨none, none, none⟩

/-- Notes that an anchor names the node that starts here. -/
def declare (anchor : Option String) (start : Place) : Reader Unit := do
  match anchor with
  | none => return
  | some name =>
    match (← get).anchors.get? name with
    | some first => fail (some (.duplicateAnchor name, first.place)) .secondAnchor start
    | none => modify fun feed => { feed with anchors := feed.anchors.insert name ⟨start, none⟩ }

/-- Notes which node an anchor names. -/
def bindAnchor (anchor : Option String) (n : Node) : Reader Node := do
  match anchor with
  | none => return n
  | some name =>
    modify fun feed => { feed with anchors := feed.anchors.insert name ⟨n.place, some n⟩ }
    return n

/-- The node that an alias stands for.  A node can not hold itself. -/
def aliased (name : String) (place : Place) : Reader Node := do
  match ((← get).anchors.get? name).bind (·.node) with
  | some n => return n
  | none => fail none (.unknownAlias name) place

/-- The tag of a scalar.  Only a plain text without a tag, or one with the tag `!`, has the kind of its
form. -/
def scalarTag (tag : Option Tag) (text : String) (isPlain : Bool) : Tag :=
  match tag with
  | none => if isPlain then (ScalarKind.ofText text).tag else ScalarKind.text.tag
  | some t => if t = "!" then (ScalarKind.ofText text).tag else t

def collectionTag (tag : Option Tag) (name : String) : Tag :=
  match tag with
  | none => tagStem ++ name
  | some t => if t = "!" then tagStem ++ name else t

/-- Where the grammar allows a node, what may be one. -/
structure Position where
  /-- Whether block collections may start. -/
  isBlock : Bool
  /-- Whether the entries of a sequence may start without a token for its start. -/
  isIndentless : Bool

def Position.block : Position := ⟨true, false⟩
def Position.inMapping : Position := ⟨true, true⟩
def Position.flow : Position := ⟨false, false⟩

/-! ## Nodes -/

mutual

/-- A node with its properties. -/
def node (position : Position) : Nat → Reader Node
  | 0 => return emptyScalar ⟨0, 0⟩
  | fuel + 1 => do
    let first ← peek
    match first.token with
    | .alias name =>
      advance
      aliased name first.place
    | _ =>
      let p ← properties
      let content ← peek
      let start := p.start.getD content.place
      let sequence (read : Reader (List Node)) : Reader Node := do
        declare p.anchor start
        let items ← read
        bindAnchor p.anchor (.sequence (collectionTag p.tag "seq") items start)
      let mapping (read : Reader (List (Node × Node))) : Reader Node := do
        declare p.anchor start
        let entries ← read
        bindAnchor p.anchor (.mapping (collectionTag p.tag "map") entries start)
      match content.token with
      | .scalar text isPlain =>
        advance
        declare p.anchor start
        bindAnchor p.anchor (.scalar (scalarTag p.tag text isPlain) text start)
      | .flowSequenceStart =>
        sequence do
          advance
          flowItems content.place true fuel
      | .flowMappingStart =>
        mapping do
          advance
          flowEntries content.place true fuel
      | t =>
        if t = .blockEntry ∧ position.isIndentless then sequence (indentlessItems fuel)
        else if t = .blockSequenceStart ∧ position.isBlock then
          sequence do
            advance
            blockItems content.place fuel
        else if t = .blockMappingStart ∧ position.isBlock then
          mapping do
            advance
            blockEntries content.place fuel
        else if p.start.isSome then
          declare p.anchor start
          bindAnchor p.anchor (.scalar (scalarTag p.tag "" true) "" start)
        else
          fail (some (if position.isBlock then .blockNode else .flowNode, start))
            (.noContent t) content.place

/-- A node, or an empty scalar at `otherwise` before one of the tokens that end it. -/
def nodeUnless (ends : List Token) (otherwise : Place) (position : Position) : Nat → Reader Node
  | 0 => return emptyScalar otherwise
  | fuel + 1 => do
    if ends.contains (← peekToken) then return emptyScalar otherwise
    else node position fuel

/-- The value after a key; without a mark it is empty. -/
def valueUnless (ends : List Token) (position : Position) : Nat → Reader Node
  | 0 => return emptyScalar ⟨0, 0⟩
  | fuel + 1 => do
    let t ← peek
    if t.token = .value then
      advance
      nodeUnless ends (afterMark t.place) position fuel
    else return emptyScalar t.place

/-- The items of a sequence in brackets.  A key makes an item a mapping with one entry. -/
def flowItems (start : Place) (isFirst : Bool) : Nat → Reader (List Node)
  | 0 => return []
  | fuel + 1 => do
    let t ← peek
    if t.token = .flowSequenceEnd then
      advance
      return []
    else
      if !isFirst then
        if t.token = .flowEntry then advance
        else fail (some (.flowSequence, start)) (.noSequenceComma t.token) t.place
      let t ← peek
      if t.token = .flowSequenceEnd then
        advance
        return []
      else
        let item ←
          if t.token = .key then do
            advance
            let key ← nodeUnless [.value, .flowEntry, .flowSequenceEnd] (afterMark t.place) .flow fuel
            let value ← valueUnless [.flowEntry, .flowSequenceEnd] .flow fuel
            pure (Node.mapping (collectionTag none "map") [(key, value)] t.place)
          else node .flow fuel
        let items ← flowItems start false fuel
        return item :: items

/-- The entries of a mapping in braces. -/
def flowEntries (start : Place) (isFirst : Bool) : Nat → Reader (List (Node × Node))
  | 0 => return []
  | fuel + 1 => do
    let t ← peek
    if t.token = .flowMappingEnd then
      advance
      return []
    else
      if !isFirst then
        if t.token = .flowEntry then advance
        else fail (some (.flowMapping, start)) (.noMappingComma t.token) t.place
      let t ← peek
      if t.token = .flowMappingEnd then
        advance
        return []
      else
        let entry ←
          if t.token = .key then do
            advance
            let key ← nodeUnless [.value, .flowEntry, .flowMappingEnd] (afterMark t.place) .flow fuel
            let value ← valueUnless [.flowEntry, .flowMappingEnd] .flow fuel
            pure (key, value)
          else do
            let key ← node .flow fuel
            pure (key, emptyScalar (← peek).place)
        let entries ← flowEntries start false fuel
        return entry :: entries

/-- The items of a sequence in a block of its own. -/
def blockItems (start : Place) : Nat → Reader (List Node)
  | 0 => return []
  | fuel + 1 => do
    let t ← peek
    if t.token = .blockEntry then
      advance
      let item ← nodeUnless [.blockEntry, .blockEnd] (afterMark t.place) .block fuel
      let items ← blockItems start fuel
      return item :: items
    else if t.token = .blockEnd then
      advance
      return []
    else fail (some (.blockCollection, start)) (.noBlockEnd t.token) t.place

/-- The items of a sequence that starts at the column of the keys around it. -/
def indentlessItems : Nat → Reader (List Node)
  | 0 => return []
  | fuel + 1 => do
    let t ← peek
    if t.token = .blockEntry then
      advance
      let item ←
        nodeUnless [.blockEntry, .key, .value, .blockEnd] (afterMark t.place) .block fuel
      let items ← indentlessItems fuel
      return item :: items
    else return []

/-- The entries of a mapping in a block. -/
def blockEntries (start : Place) : Nat → Reader (List (Node × Node))
  | 0 => return []
  | fuel + 1 => do
    let t ← peek
    if t.token = .key then
      advance
      let key ← nodeUnless [.key, .value, .blockEnd] (afterMark t.place) .inMapping fuel
      let value ← valueUnless [.key, .value, .blockEnd] .inMapping fuel
      let entries ← blockEntries start fuel
      return (key, value) :: entries
    else if t.token = .blockEnd then
      advance
      return []
    else fail (some (.blockMapping, start)) (.noBlockEnd t.token) t.place

end

/-! ## Documents -/

/-- The handles that every document knows. -/
def standardHandles : Entries String := [("!", "!"), ("!!", tagStem)]

/-- The handles that directives set; a version may be given once. -/
def directives (hasVersion : Bool) (handles : Entries String) : Nat → Reader (Entries String)
  | 0 => return handles
  | fuel + 1 => do
    let t ← peek
    match t.token with
    | .directive d =>
      advance
      match d with
      | .version major _ =>
        if hasVersion then fail none .secondVersion t.place
        else if major != 1 then fail none .badVersion t.place
        else directives true handles fuel
      | .tagHandle handle stem =>
        if (handles.get? handle).isSome then fail none (.secondHandle handle) t.place
        else directives hasVersion (handles.insert handle stem) fuel
      | .other => directives hasVersion handles fuel
    | _ => return handles

/-- Skips marks for the end of a document. -/
def skipDocumentEnds : Nat → Reader Unit
  | 0 => return
  | fuel + 1 => do
    if (← peekToken) = .documentEnd then
      advance
      skipDocumentEnds fuel

/-- The start of a document that is marked, if the text has not ended. -/
def documentStart? (fuel : Nat) : Reader (Option Place) := do
  skipDocumentEnds fuel
  let t ← peek
  if t.token = .streamEnd then return none
  else
    let handles ← directives false [] fuel
    modify fun feed => { feed with handles := handles ++ standardHandles }
    let mark ← peek
    if mark.token = .documentStart then
      advance
      return some t.place
    else fail none (.noDocumentStart mark.token) mark.place

def isDirective : Token → Bool
  | .directive _ => true
  | _ => false

/-- The node of a document whose start is marked. -/
def markedContent (fuel : Nat) : Reader Node := do
  let t ← peek
  if isDirective t.token || [.documentStart, .documentEnd, .streamEnd].contains t.token then
    return emptyScalar t.place
  else node .block fuel

/-- The node of the only document, if there is one. -/
def document (fuel : Nat) : Reader (Option Node) := do
  let t ← peek
  let root ←
    if isDirective t.token || [.documentStart, .streamEnd].contains t.token then do
      match ← documentStart? fuel with
      | none => pure none
      | some _ => (markedContent fuel).map some
    else (node .block fuel).map some
  match root with
  | none => return none
  | some n =>
    if (← peekToken) = .documentEnd then advance
    match ← documentStart? fuel with
    | none => return some n
    | some p => fail (some (.singleDocument, n.place)) .anotherDocument p

end Reader

/-- The node of the document in a text, if there is one. -/
def Node.ofText (s : String) : Except Fault (Option Node) :=
  let (ts, fault) := tokens s
  (Reader.document (4 * ts.length + 4) ⟨ts, fault, [], Reader.standardHandles⟩).map (·.1)

end Yaml
end ReceiptTemplate
