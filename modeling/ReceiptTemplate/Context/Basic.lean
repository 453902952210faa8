import ReceiptTemplate.Value.Datum

/-!
# Context — the scopes and loop variables that an expression sees

A context holds the root value, the scopes pushed on it and the position in the current loop.  The
root can not be popped.  A position carries a proof that its index lies below its count, and whether
an item is the first or the last follows from the two.
-/

namespace ReceiptTemplate

/-- An item of a loop. -/
structure LoopPosition where
  index : Nat
  count : Nat
  index_lt : index < count

namespace LoopPosition

def isFirst (p : LoopPosition) : Bool :=
  p.index == 0

def isLast (p : LoopPosition) : Bool :=
  p.index + 1 == p.count

end LoopPosition

/-- Why an operation on a context is refused. -/
inductive ContextFault where
  | rootPopped
  | emptyLoop (count : Int)
  | indexOutside (index count : Int)
deriving DecidableEq

def ContextFault.message : ContextFault → String
  | .rootPopped => "Cannot pop the root scope"
  | .emptyLoop count => s!"Loop count must be greater than zero, got {Text.integerText count}"
  | .indexOutside index count =>
    s!"Loop index ({Text.integerText index}) must be in range 0..{Text.integerText (count - 1)}"

structure Context where
  root : Value
  /-- The pushed scopes, innermost first. -/
  pushed : List Value
  position : Option LoopPosition
  key : Option String

namespace Context

/-- A context without pushed scopes and outside any loop. -/
def ofValue (root : Value) : Context :=
  ⟨root, [], none, none⟩

/-- The context over render data; null stands for an object without properties. -/
def ofDatum (d : Datum) : Except DataFault Context :=
  match d with
  | .null => .ok (ofValue (.object []))
  | d => d.toValue.map ofValue

/-- The context over data that must already be a value. -/
def ofValueDatum (d : Datum) : Except DataFault Context :=
  match d with
  | .value v => .ok (ofValue v)
  | d => .error (.badContextRoot d.typeName)

/-! ## Scopes -/

/-- The innermost scope. -/
def current (c : Context) : Value :=
  match c.pushed with
  | [] => c.root
  | scope :: _ => scope

def depth (c : Context) : Nat :=
  c.pushed.length + 1

theorem depth_pos (c : Context) : 0 < c.depth := Nat.succ_pos _

def push (scope : Value) (c : Context) : Context :=
  { c with pushed := scope :: c.pushed }

/-- The context with data pushed that must already be a value. -/
def pushDatum (d : Datum) (c : Context) : Except DataFault Context :=
  match d with
  | .value v => .ok (c.push v)
  | d => .error (.badScope d.typeName)

/-- The innermost scope and the context without it. -/
def pop (c : Context) : Except ContextFault (Value × Context) :=
  match c.pushed with
  | [] => .error .rootPopped
  | scope :: rest => .ok (scope, { c with pushed := rest })

/-! ## Loop variables -/

/-- The position of an item; the count is checked before the index. -/
def positionAt (index count : Int) : Except ContextFault LoopPosition :=
  if count ≤ 0 then .error (.emptyLoop count)
  else if h : 0 ≤ index ∧ index < count then .ok ⟨index.toNat, count.toNat, by omega⟩
  else .error (.indexOutside index count)

def setLoop (index count : Int) (c : Context) : Except ContextFault Context :=
  (positionAt index count).map fun p => { c with position := some p }

/-- Sets the key of the current item, without the blanks around it. -/
def setKey (key : String) (c : Context) : Context :=
  { c with key := some (Text.strip key) }

def clearLoop (c : Context) : Context :=
  { c with position := none, key := none }

def loopIndex (c : Context) : Option Nat :=
  c.position.map (·.index)

def isFirst (c : Context) : Bool :=
  (c.position.map (·.isFirst)).getD false

def isLast (c : Context) : Bool :=
  (c.position.map (·.isLast)).getD false

end Context
end ReceiptTemplate
