import ReceiptTemplate.Binary64.Text
import ReceiptTemplate.Calendar.Moment
import ReceiptTemplate.Value.Basic

/-!
# Data — plain data as a host program or a data file holds it

Plain data has integers, doubles and decimals, dates and moments, and mappings with keys of several
kinds.  `Datum.toValue` turns it into a value: numbers become decimals, dates become text, and keys
become text.  Numbers that are not finite and data of other types are refused.
`Value.toDatum` goes back.
-/

namespace ReceiptTemplate

inductive Datum where
  | null
  | bool (b : Bool)
  | int (n : Int)
  | float (x : Binary64)
  | decimal (r : Decimal.Reading)
  | text (s : String)
  | date (d : Date)
  | moment (m : Moment)
  | list (items : List Datum)
  | mapping (entries : List (Datum × Datum))
  /-- A value that needs no conversion. -/
  | value (v : Value)
  /-- Data of a type that no value stands for. -/
  | foreign (typeName : String)

/-- Why data is refused. -/
inductive DataFault where
  | notFinite (number : String)
  | noNumber (typeName : String)
  | notConvertible (typeName : String)
  | badContextRoot (typeName : String)
  | badScope (typeName : String)
deriving DecidableEq

namespace DataFault

def message : DataFault → String
  | .notFinite number => s!"NumberValue must be finite, got {number}"
  | .noNumber typeName => s!"NumberValue does not accept {typeName}; use BoolValue"
  | .notConvertible typeName => s!"Cannot convert {typeName} to a template value"
  | .badContextRoot typeName => s!"Context root must be a TemplateValue, got {typeName}"
  | .badScope typeName => s!"Scope must be a TemplateValue, got {typeName}"

/-- Whether the data has a type of its own and only an unfit content. -/
def isContentFault : DataFault → Bool
  | .notFinite _ => true
  | _ => false

end DataFault

namespace Datum

/-! ## Numbers -/

/-- The number that a reading stands for, if it is finite. -/
def numberOfReading (r : Decimal.Reading) : Except DataFault Decimal :=
  match r with
  | .finite d => .ok d
  | r => .error (.notFinite r.text)

/-! ## Keys -/

/-- A scalar key as text. -/
def keyText : Datum → String
  | .null => "None"
  | .bool b => if b then "True" else "False"
  | .int n => Text.integerText n
  | .float x => x.text
  | .decimal r => r.text
  | .text s => s
  | .date d => d.text
  | .moment m => m.textWith ' '
  | .list _ | .mapping _ | .value _ | .foreign _ => ""

/-- The decimal that a numeric key equals; booleans count as one and zero. -/
def keyNumber? : Datum → Option Decimal
  | .bool b => some (.ofNat (if b then 1 else 0))
  | .int n => some (.ofInt n)
  | .float (.finite negative m q) =>
    some (if 0 ≤ q then ⟨negative, m * Nat.pow 2 q.toNat, 0⟩
      else ⟨negative, m * Nat.pow 5 (-q).toNat, q⟩)
  | .decimal (.finite d) => some d
  | _ => none

/-- Whether two keys of a mapping are one key. -/
def sameKey (a b : Datum) : Bool :=
  match a.keyNumber?, b.keyNumber? with
  | some x, some y => x.same y
  | none, none =>
    match a, b with
    | .null, .null => true
    | .text s, .text t => s == t
    | .date d, .date e => d == e
    | .moment m, .moment n => m == n
    | _, _ => false
  | _, _ => false

/-- The pairs with a key set; an equal key keeps its place and its spelling. -/
def insertKey (key item : Datum) : List (Datum × Datum) → List (Datum × Datum)
  | [] => [(key, item)]
  | (k, v) :: rest => if k.sameKey key then (k, item) :: rest else (k, v) :: insertKey key item rest

/-- The mapping written pair by pair. -/
def ofPairs (pairs : List (Datum × Datum)) : Datum :=
  .mapping (pairs.foldl (fun acc p => insertKey p.1 p.2 acc) [])

/-! ## Conversion -/

mutual

/-- The value that data stands for. -/
def toValue : Datum → Except DataFault Value
  | .null => .ok .null
  | .bool b => .ok (.bool b)
  | .int n => .ok (.number (.ofInt n))
  | .float x => (numberOfReading x.toDecimal).map .number
  | .decimal r => (numberOfReading r).map .number
  | .text s => .ok (.text s)
  | .date d => .ok (.text d.text)
  | .moment m => .ok (.text m.text)
  | .list items => (toValues items).map .array
  | .mapping entries => (toPairs entries).map fun pairs => Value.ofEntries (Entries.ofList pairs)
  | .value v => .ok v
  | .foreign typeName => .error (.notConvertible typeName)

def toValues : List Datum → Except DataFault (List Value)
  | [] => .ok []
  | d :: ds =>
    match toValue d with
    | .error e => .error e
    | .ok v => (toValues ds).map (v :: ·)

def toPairs : List (Datum × Datum) → Except DataFault (List (String × Value))
  | [] => .ok []
  | (k, d) :: rest =>
    match toValue d with
    | .error e => .error e
    | .ok v => (toPairs rest).map ((k.keyText, v) :: ·)

end

/-- The name of the type of data that is no value. -/
def typeName : Datum → String
  | .null => "NoneType"
  | .bool _ => "bool"
  | .int _ => "int"
  | .float _ => "float"
  | .decimal _ => "Decimal"
  | .text _ => "str"
  | .date _ => "date"
  | .moment _ => "datetime"
  | .list _ => "list"
  | .mapping _ => "dict"
  | .value _ => "TemplateValue"
  | .foreign name => name

/-- The number that data stands for where only a number will do; `none` for a text that is no
number. -/
def toNumber : Datum → Option (Except DataFault Decimal)
  | .bool _ => some (.error (.noNumber "bool"))
  | .int n => some (.ok (.ofInt n))
  | .float x => some (numberOfReading x.toDecimal)
  | .decimal r => some (numberOfReading r)
  | .text s => (Decimal.read? s).map numberOfReading
  | _ => none

end Datum

namespace Value

mutual

/-- The plain data of a value. -/
def toDatum : Value → Datum
  | .null => .null
  | .bool b => .bool b
  | .number d => .decimal (.finite d)
  | .text s => .text s
  | .array items => .list (toData items)
  | .object entries => .mapping (toDataPairs entries)

def toData : List Value → List Datum
  | [] => []
  | v :: vs => toDatum v :: toData vs

def toDataPairs : List (String × Value) → List (Datum × Datum)
  | [] => []
  | (k, v) :: rest => (.text k, toDatum v) :: toDataPairs rest

end

end Value
end ReceiptTemplate
