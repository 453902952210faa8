import ReceiptTemplate.Number.Strict
import ReceiptTemplate.Text.Constructor
import ReceiptTemplate.Value.Datum

/-!
# Shapes — the types of properties and how text becomes typed

A shape is text, an integer, a float, a boolean or the members of an enumeration.  Numbers are read in
plain notation, or strictly in the notation of a locale.  Names of members ignore case.
-/

namespace ReceiptTemplate

/-- A named value of an enumeration. -/
structure EnumMember where
  name : String
  value : Datum

/-- An enumeration; a member whose value was used before is an alias and is left out. -/
structure EnumType where
  name : String
  members : List EnumMember

namespace EnumType

/-- The enumeration without its aliases. -/
def ofMembers (name : String) (members : List EnumMember) : EnumType :=
  ⟨name, (members.foldl (fun acc m =>
    if acc.any fun a => a.value.sameKey m.value then acc else m :: acc) []).reverse⟩

/-- The first member with a name, whatever its case. -/
def find? (t : EnumType) (name : String) : Option EnumMember :=
  t.members.find? fun m => Text.fold m.name == Text.fold name

end EnumType

inductive ShapeKind where
  | text | integer | float | boolean
  | enum (type : EnumType)

structure Shape where
  kind : ShapeKind
  /-- Whether blank text stands for no value. -/
  isOptional : Bool

namespace Shape

def name (s : Shape) : String :=
  match s.kind with
  | .text => "text"
  | .integer => "integer"
  | .float => "float"
  | .boolean => "boolean"
  | .enum type => type.name

end Shape

/-- A value of some shape. -/
inductive TypedValue where
  | absent
  | text (s : String)
  | integer (n : Int)
  | float (x : Binary64)
  | boolean (b : Bool)
  | member (typeName : String) (m : EnumMember)

/-- Plain data as a term. -/
def Datum.constructorText : Datum → String
  | .null => Text.optional none
  | .bool b => Text.truth b
  | .decimal r => "Decimal('" ++ r.text ++ "')"
  | .text s => Text.quoted s
  | d => d.keyText

namespace TypedValue

def constructorText : TypedValue → String
  | .absent => Text.optional none
  | .text s => Text.quoted s
  | .integer n => Text.integerText n
  | .float x => x.text
  | .boolean b => Text.truth b
  | .member typeName m => "<" ++ typeName ++ "." ++ m.name ++ ": " ++ m.value.constructorText ++ ">"

end TypedValue

/-! ## Reading -/

/-- Why a text is not of a shape. -/
inductive ShapeFault where
  | mismatch
  /-- The check of a strict number breaks off. -/
  | strict (fault : StrictFault)
  /-- An infinite number where an integer is wanted. -/
  | infinite
deriving DecidableEq

namespace Shape

open Unicode (isDecimalDigit)

/-- A reading that is not well formed is of no shape; other faults are reported as they are. -/
def strictFault : StrictFault → ShapeFault
  | .malformed => .mismatch
  | fault => .strict fault

/-- Digits with an optional sign. -/
def isPlainInteger (cs : List Char) : Bool :=
  let digits := (Text.splitSign cs).2
  !digits.isEmpty && digits.all isDecimalDigit

/-- Nothing, or an exponent. -/
def isPlainExponent : List Char → Bool
  | [] => true
  | c :: tail => (c == 'e' || c == 'E') && isPlainInteger tail

/-- Digits with an optional point, sign and exponent. -/
def isPlainFloat (cs : List Char) : Bool :=
  let body := (Text.splitSign cs).2
  let whole := body.takeWhile isDecimalDigit
  let rest := body.dropWhile isDecimalDigit
  let (fraction, rest) :=
    match rest with
    | '.' :: tail => (tail.takeWhile isDecimalDigit, tail.dropWhile isDecimalDigit)
    | rest => ([], rest)
  !(whole.isEmpty && fraction.isEmpty) && isPlainExponent rest

/-- The integer that a number is, if it is one. -/
def integerOf : Decimal.Reading → Except ShapeFault TypedValue
  | .finite d => if d.isWhole then .ok (.integer d.whole) else .error .mismatch
  | .infinite _ => .error .infinite
  | .nan _ true _ => .error (.strict .signaling)
  | .nan _ false _ => .error .mismatch

/-- The double that was read, unless it is beyond the range of doubles. -/
def floatOf : Option Binary64 → Except ShapeFault TypedValue
  | some (.infinite _) | none => .error .mismatch
  | some x => .ok (.float x)

def readInteger (locale : Option Locale) (s : String) : Except ShapeFault TypedValue :=
  match locale with
  | some l => (l.readNumber s).mapError strictFault >>= integerOf
  | none =>
    match if isPlainInteger s.toList then Text.readInteger? s else none with
    | some n => .ok (.integer n)
    | none => .error .mismatch

def readFloat (locale : Option Locale) (s : String) : Except ShapeFault TypedValue :=
  match locale with
  | some l => (l.readNumber s).mapError strictFault >>= fun r => floatOf (Binary64.ofReading r)
  | none => floatOf (if isPlainFloat s.toList then Binary64.read? s else none)

def readBoolean (s : String) : Except ShapeFault TypedValue :=
  let low := Text.lower s
  if low = "true" then .ok (.boolean true)
  else if low = "false" then .ok (.boolean false)
  else .error .mismatch

def readMember (type : EnumType) (s : String) : Except ShapeFault TypedValue :=
  match type.find? s with
  | some m => .ok (.member type.name m)
  | none => .error .mismatch

/-- The typed value of a text that is not blank.  Blanks around it count only in a text. -/
def read (kind : ShapeKind) (locale : Option Locale) (raw : String) :
    Except ShapeFault TypedValue :=
  match kind with
  | .text => .ok (.text raw)
  | .integer => readInteger locale (Text.strip raw)
  | .float => readFloat locale (Text.strip raw)
  | .boolean => readBoolean (Text.strip raw)
  | .enum type => readMember type (Text.strip raw)

end Shape
end ReceiptTemplate
