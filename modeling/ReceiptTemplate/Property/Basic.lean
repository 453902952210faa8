import ReceiptTemplate.Engine.Basic
import ReceiptTemplate.Property.Shape

/-!
# Properties — attributes that become typed in two phases

A property starts as a typed literal, as text with an expression or as pending text.  Resolving
evaluates the expression and leaves pending text; materializing reads pending text as a value of the
shape.  Each phase does nothing in a state that it does not apply to, and a phase that fails leaves the
property as it was.  Only a literal has a value, and only the other states have raw text.
-/

namespace ReceiptTemplate

/-- What a property holds for its caller; it restricts nothing. -/
inductive PropertyKind where
  | any | color | size | path
deriving DecidableEq

def PropertyKind.ofName? : String → Option PropertyKind
  | "any" => some .any
  | "color" => some .color
  | "size" => some .size
  | "path" => some .path
  | _ => none

inductive PropertyState where
  | literal (value : TypedValue)
  | expression (raw : String)
  | pending (raw : String)

structure Property where
  shape : Shape
  state : PropertyState

/-- Why a property has no typed value. -/
inductive PropertyFault where
  | empty (property : String) (shape : Shape) (raw : String)
  | mismatch (property : String) (shape : Shape) (raw : String)
  | unreadable (fault : ShapeFault)
  | locale (fault : LocaleFault)
  | notMaterialized (stateName : String)
  /-- The expressions in the raw text have no value. -/
  | unresolved (failure : Failure)

namespace PropertyFault

/-- The names that a text of the shape can have. -/
def validNames (s : Shape) : String :=
  match s.kind with
  | .enum type => s!" Valid values: {Text.commaList (type.members.map (·.name))}."
  | _ => ""

/-- The message of a fault that is shown to those who write templates. -/
def message : PropertyFault → String
  | .empty property shape _ => s!"Property '{property}': expected {shape.name}, got empty value."
  | .mismatch property shape raw =>
    s!"Property '{property}': expected {shape.name}, got '{raw}'." ++ validNames shape
  | .notMaterialized stateName => s!"Property value is {stateName}, not materialized"
  | .locale fault => fault.message
  | .unreadable _ | .unresolved _ => ""

end PropertyFault

namespace Property

/-! ## Construction -/

def ofLiteral (value : TypedValue) (shape : Shape) : Property :=
  ⟨shape, .literal value⟩

def ofExpression (raw : String) (shape : Shape) : Property :=
  ⟨shape, .expression raw⟩

/-- A property from raw text, which may embed expressions. -/
def ofRaw (raw : String) (shape : Shape) : Property :=
  ⟨shape, if Template.containsExpression raw then .expression raw else .pending raw⟩

/-! ## Views -/

def stateName (p : Property) : String :=
  match p.state with
  | .literal _ => "literal"
  | .expression _ => "expression"
  | .pending _ => "pending"

/-- The text of a property that is not typed yet. -/
def raw? (p : Property) : Option String :=
  match p.state with
  | .literal _ => none
  | .expression raw | .pending raw => some raw

def isMaterialized (p : Property) : Bool :=
  match p.state with
  | .literal _ => true
  | _ => false

/-- The typed value. -/
def value (p : Property) : Except PropertyFault TypedValue :=
  match p.state with
  | .literal v => .ok v
  | _ => .error (.notMaterialized p.stateName)

def constructorText (p : Property) : String :=
  match p.state with
  | .literal v => s!"PropertyValue(literal={v.constructorText})"
  | .expression raw | .pending raw => s!"PropertyValue({p.stateName}, raw={Text.quoted raw})"

/-! ## Phases -/

/-- The property with its expression evaluated. -/
def resolveWith {ε : Type} (evaluate : String → Except ε String) (p : Property) :
    Except ε Property :=
  match p.state with
  | .expression raw => (evaluate raw).map fun text => { p with state := .pending text }
  | _ => .ok p

/-- The typed value of raw text. -/
def read (shape : Shape) (property raw : String) (locale : Option Locale) :
    Except PropertyFault TypedValue :=
  if Text.isAllBlank raw then
    if shape.isOptional then .ok .absent
    else
      match shape.kind with
      | .text => .ok (.text raw)
      | _ => .error (.empty property shape raw)
  else
    (Shape.read shape.kind locale raw).mapError fun
      | .mismatch => .mismatch property shape raw
      | fault => .unreadable fault

/-- The locale in whose notation numbers are read. -/
def readingLocale (name : Option String) : Except PropertyFault (Option Locale) :=
  match name with
  | none => .ok none
  | some name => ((Locale.parse (some name) Locale.standardName).map some).mapError .locale

/-- The typed value and the property that holds it. -/
def materialize (property : String) (_kind : PropertyKind) (locale : Option String)
    (p : Property) : Except PropertyFault (TypedValue × Property) :=
  match p.state with
  | .literal v => .ok (v, p)
  | .expression raw | .pending raw => do
    let l ← readingLocale locale
    let v ← read p.shape property raw l
    .ok (v, { p with state := .literal v })

end Property

/-! ## Properties of an engine -/

namespace Engine

/-- The property with the expressions in its text rendered, and the engine after it. -/
def resolve (e : Engine) (p : Property) (data : RenderData) (override : Option String) :
    Except Failure Property × Engine :=
  match p.state with
  | .expression raw =>
    let (text, e) := e.render raw data override
    (p.resolveWith fun _ => text, e)
  | _ => (.ok p, e)

/-- Both phases of a property: the typed value, the property after them and the engine after them.  One
locale serves both, so that text written by a filter is read with the same symbols. -/
def resolveProperty (e : Engine) (p : Property) (property : String) (kind : PropertyKind)
    (data : RenderData) (override : Option String) :
    Except PropertyFault TypedValue × Property × Engine :=
  match data.toContext with
  | .error failure => (.error (.unresolved failure), p, e)
  | .ok c =>
    match e.resolve p (.context c) override with
    | (.error failure, e) => (.error (.unresolved failure), p, e)
    | (.ok p, e) =>
      match p.materialize property kind override with
      | .error fault => (.error fault, p, e)
      | .ok (v, p) => (.ok v, p, e)

end Engine
end ReceiptTemplate
