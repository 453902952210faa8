import ReceiptTemplate.Value.Datum
import ReceiptTemplate.Yaml.Node

/-!
# Node data — the plain data that the nodes of a data file denote

Tags decide what a node denotes.  A mapping can take over the entries of others; entries of its own win.
Keys are scalars.  Data is made level by level, so of several faults the one nearest to the root is
reported, and among those of one level the first.
-/

namespace ReceiptTemplate
namespace Yaml

/-- Why nodes denote no data. -/
inductive DataTrouble where
  | fault (f : Fault)
  /-- A scalar of the right form that denotes nothing. -/
  | content (f : ContentFault)
deriving DecidableEq

namespace Node

/-- Data, or a trouble and the level at which it lies. -/
abbrev Leveled (α : Type) := Except (Nat × DataTrouble) α

/-- Both results, or the trouble that is nearer to the root. -/
def both {α β : Type} (a : Leveled α) (b : Leveled β) : Leveled (α × β) :=
  match a, b with
  | .ok x, .ok y => .ok (x, y)
  | .error e, .ok _ => .error e
  | .ok _, .error e => .error e
  | .error e, .error e' => .error (if e'.1 < e.1 then e' else e)

def faultAt {α : Type} (level : Nat) (activity : Option (Activity × Place)) (problem : Problem)
    (place : Place) : Leveled α :=
  .error (level, .fault ⟨activity, problem, place⟩)

def unknownTag {α : Type} (level : Nat) (n : Node) : Leveled α :=
  faultAt level none (.unknownTag n.tag) n.place

/-! ## Scalars -/

/-- The standard name of a tag. -/
def standardName? (t : Tag) : Option String :=
  let stem := tagStem.toList
  if stem.isPrefixOf t.toList then some (String.ofList (t.toList.drop stem.length)) else none

/-- Data of a scalar with a standard tag; `none` for a tag that scalars do not have. -/
def scalarDatum? (name text : String) : Option (Except ContentFault Datum) :=
  match name with
  | "null" => some (.ok .null)
  | "bool" => some ((ScalarKind.readBool text).map .bool)
  | "int" => some ((ScalarKind.readInt text).map .int)
  | "float" => some ((ScalarKind.readFloat text).map .float)
  | "str" => some (.ok (.text text))
  | "timestamp" =>
    some ((ScalarKind.readTimestamp text).map fun
      | .inl d => .date d
      | .inr m => .moment m)
  | "binary" => some (.ok (.foreign "bytes"))
  | _ => none

/-- What lists of pairs are read for. -/
def pairActivity? : String → Option Activity
  | "omap" => some .constructingOrderedMap
  | "pairs" => some .constructingPairs
  | _ => none

def scalarTags : List String :=
  ["null", "bool", "int", "float", "str", "timestamp", "binary"]

/-- The fault of a node whose tag asks for another kind of node. -/
def wrongNode {α : Type} (level : Nat) (n : Node) : Leveled α :=
  match standardName? n.tag with
  | some name =>
    if scalarTags.contains name then faultAt level none (.noScalar n.shown) n.place
    else if name = "seq" then faultAt (level + 1) none (.noSequence n.shown) n.place
    else if name = "map" ∨ name = "set" then faultAt (level + 1) none (.noMapping n.shown) n.place
    else
      match pairActivity? name with
      | some activity =>
        faultAt (level + 1) (some (activity, n.place)) (.noPairs n.shown) n.place
      | none => unknownTag level n
  | none => unknownTag level n

def scalarDatum (level : Nat) (n : Node) (text : String) : Leveled Datum :=
  match (standardName? n.tag).bind fun name => scalarDatum? name text with
  | some (.ok d) => .ok d
  | some (.error f) => .error (level, .content f)
  | none => wrongNode level n

/-! ## Merging -/

/-- Whether a key asks for the entries of another mapping. -/
def isMergeKey (n : Node) : Bool :=
  n.tag == ScalarKind.merge.tag

/-- A key that is a single equals sign is a text. -/
def asTextKey : Node → Node
  | .scalar t text p => .scalar (if t = ScalarKind.default.tag then ScalarKind.text.tag else t) text p
  | n => n

mutual

/-- The entries of a mapping with those that it takes over in front; `start` is where it starts. -/
def flatten (level : Nat) (start : Place) :
    List (Node × Node) → Leveled (List (Node × Node) × List (Node × Node))
  | [] => .ok ([], [])
  | (k, v) :: rest =>
    if isMergeKey k then
      match mergedEntries level start v with
      | .error e => .error e
      | .ok taken => (flatten level start rest).map fun p => (taken ++ p.1, p.2)
    else (flatten level start rest).map fun p => (p.1, (asTextKey k, v) :: p.2)

/-- The entries that a value of a merge key stands for.  Of a list of mappings the first wins. -/
def mergedEntries (level : Nat) (start : Place) : Node → Leveled (List (Node × Node))
  | .mapping _ entries p => (flatten level p entries).map fun q => q.1 ++ q.2
  | .sequence _ items _ => mergedItems level start items
  | .scalar t text p =>
    faultAt level (some (.constructingMapping, start))
      (.noMergeList (Node.scalar t text p).shown) p

def mergedItems (level : Nat) (start : Place) : List Node → Leveled (List (Node × Node))
  | [] => .ok []
  | .mapping _ entries p :: rest =>
    match flatten level p entries with
    | .error e => .error e
    | .ok q => (mergedItems level start rest).map fun more => more ++ (q.1 ++ q.2)
  | n :: _ =>
    faultAt level (some (.constructingMapping, start)) (.noMergeMapping n.shown) n.place

end

/-! ## Collections -/

/-- The data of a key. -/
def keyDatum (level : Nat) (start : Place) (k : Node) : Leveled Datum :=
  match k with
  | .scalar _ text _ => scalarDatum level k text
  | k => faultAt level (some (.constructingMapping, start)) .unhashableKey k.place

/-- The data of a list of nodes. -/
def itemData (datum : Node → Leveled Datum) : List Node → Leveled (List Datum)
  | [] => .ok []
  | n :: rest => (both (datum n) (itemData datum rest)).map fun p => p.1 :: p.2

/-- The data of the entries of a mapping. -/
def entryData (key datum : Node → Leveled Datum) :
    List (Node × Node) → Leveled (List (Datum × Datum))
  | [] => .ok []
  | (k, v) :: rest =>
    (both (both (key k) (datum v)) (entryData key datum rest)).map fun p => p.1 :: p.2

/-- The only entry of an item of a list of pairs. -/
def pairOf (level : Nat) (activity : Activity) (start : Place) : Node → Leveled (Node × Node)
  | .mapping _ [entry] _ => .ok entry
  | .mapping _ entries p =>
    faultAt level (some (activity, start)) (.noSinglePair entries.length) p
  | n => faultAt level (some (activity, start)) (.noPair n.shown) n.place

/-- A list of pairs, each a list of two. -/
def pairData (pair : Node → Leveled (Node × Node)) (datum : Node → Leveled Datum) :
    List Node → Leveled (List Datum)
  | [] => .ok []
  | n :: rest =>
    let first := (pair n).bind fun p => both (datum p.1) (datum p.2)
    (both first (pairData pair datum rest)).map fun p => .list [p.1.1, p.1.2] :: p.2

/-- The data of a node at a level, down to a depth of `fuel`. -/
def datumAt : Nat → Nat → Node → Leveled Datum
  | 0, _, _ => .ok .null
  | _ + 1, level, n@(.scalar _ text _) => scalarDatum level n text
  | fuel + 1, level, n@(.sequence t items _) =>
    match standardName? t with
    | some name =>
      if name = "seq" then (itemData (datumAt fuel (level + 1)) items).map .list
      else
        match pairActivity? name with
        | some activity =>
          (pairData (pairOf (level + 1) activity n.place) (datumAt fuel (level + 1)) items).map .list
        | none => wrongNode level n
    | none => unknownTag level n
  | fuel + 1, level, n@(.mapping t entries p) =>
    match standardName? t with
    | some name =>
      if name = "map" ∨ name = "set" then
        match flatten (level + 1) p entries with
        | .error e => .error e
        | .ok q =>
          (entryData (keyDatum (level + 1) p) (datumAt fuel (level + 1)) (q.1 ++ q.2)).map fun pairs =>
            if name = "set" then .foreign "set" else .ofPairs pairs
      else wrongNode level n
    | none => unknownTag level n

mutual

/-- How many levels a node has. -/
def depth : Node → Nat
  | .scalar .. => 1
  | .sequence _ items _ => depthOfItems items + 1
  | .mapping _ entries _ => depthOfEntries entries + 1

def depthOfItems : List Node → Nat
  | [] => 0
  | n :: rest => max n.depth (depthOfItems rest)

def depthOfEntries : List (Node × Node) → Nat
  | [] => 0
  | (k, v) :: rest => max (max k.depth v.depth) (depthOfEntries rest)

end

/-- The data that a node denotes. -/
def toDatum (n : Node) : Except DataTrouble Datum :=
  (datumAt n.depth 0 n).mapError (·.2)

end Node

/-! ## Files -/

/-- Why a data file holds no data. -/
inductive FileFault where
  /-- A control character that files may not hold. -/
  | badCharacter (c : Char) (position : Nat)
  | fault (f : Fault)
  | content (f : ContentFault)
deriving DecidableEq

/-- Whether a file may hold a character. -/
def isAllowedChar (c : Char) : Bool :=
  let n := c.toNat
  n == 9 || n == 10 || n == 13 || (0x20 ≤ n && n ≤ 0x7e) || n == 0x85 ||
    (0xa0 ≤ n && n ≤ 0xd7ff) || (0xe000 ≤ n && n ≤ 0xfffd) || 0x10000 ≤ n

/-- The text with every line break written as a line feed. -/
def unifyBreaks : List Char → List Char
  | [] => []
  | '\r' :: '\n' :: cs => '\n' :: unifyBreaks cs
  | '\r' :: cs => '\n' :: unifyBreaks cs
  | c :: cs => c :: unifyBreaks cs

/-- The data of a file; an empty file holds null. -/
def read (text : String) : Except FileFault Datum :=
  let cs := unifyBreaks text.toList
  match cs.find? (!isAllowedChar ·) with
  | some c => .error (.badCharacter c (cs.takeWhile isAllowedChar).length)
  | none =>
    match Node.ofText (String.ofList cs) with
    | .error f => .error (.fault f)
    | .ok none => .ok .null
    | .ok (some n) =>
      match n.toDatum with
      | .ok d => .ok d
      | .error (.fault f) => .error (.fault f)
      | .error (.content f) => .error (.content f)

/-- The message of a fault in a file. -/
def FileFault.message (file : String) : FileFault → String
  | .badCharacter c position =>
    s!"unacceptable character #x{String.ofList (Text.hexDigits 4 c.toNat)}: " ++
      s!"special characters are not allowed\n  in \"{file}\", position {position}"
  | .fault f => f.message file
  | .content _ => ""

end Yaml
end ReceiptTemplate
