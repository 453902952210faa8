import ReceiptTemplate.Context.Reference
import ReceiptTemplate.Decimal.Arithmetic
import ReceiptTemplate.Expr.Basic
import ReceiptTemplate.Filter.Registry

/-!
# Evaluation — the value of a tree

Data never makes evaluation fail: operands of the wrong kind, a division by zero and a result without a
finite value give null, and an ordered comparison of unlike values is false.  An unknown filter is an
error, found before the input of the filter is evaluated.  `&&`, `||` and `??` give one of their operands
and leave the right one alone where the left one decides.
-/

namespace ReceiptTemplate

/-- Why a tree has no value. -/
inductive EvalFault where
  /-- A path beyond the limits; no parsed tree has one. -/
  | badPath (error : ParseError)
  | unknownFilter (name : String)
  | filter (fault : FilterFault)
deriving DecidableEq

/-- The message of a fault that is shown to those who write templates. -/
def EvalFault.message : EvalFault → String
  | .badPath error => error.message
  | .unknownFilter name => s!"Unknown filter '{name}'"
  | .filter fault => fault.message

/-- What the value of a tree depends on. -/
structure Surroundings where
  context : Context
  filters : FilterRegistry
  locale : Locale

/-! ## Operators on values -/

/-- The result in standard precision, if it is finite. -/
def Arithmetic.calculate? (op : Arithmetic) (a b : Decimal) : Option Decimal :=
  match op with
  | .add => Decimal.add? .standard a b
  | .subtract => Decimal.sub? .standard a b
  | .multiply => Decimal.mul? .standard a b
  | .divide => Decimal.div? .standard a b

/-- The result on two numbers; other operands give null. -/
def Arithmetic.apply (op : Arithmetic) (a b : Value) : Value :=
  match a, b with
  | .number x, .number y =>
    match op.calculate? x y with
    | some d => .number d
    | none => .null
  | _, _ => .null

/-- Whether an order stands in the relation of the operator. -/
def Comparison.holds (op : Comparison) (o : Ordering) : Bool :=
  match op with
  | .equal => o == .eq
  | .notEqual => o != .eq
  | .less => o == .lt
  | .greater => o == .gt
  | .lessEqual => o != .gt
  | .greaterEqual => o != .lt

/-- The order of two numbers or of two texts; other values have none. -/
def Value.order? : Value → Value → Option Ordering
  | .number a, .number b => some (a.cmp b)
  | .text a, .text b => some (compareOfLessAndEq a b)
  | _, _ => none

def Comparison.apply (op : Comparison) (a b : Value) : Bool :=
  match op with
  | .equal => a.same b
  | .notEqual => !a.same b
  | op =>
    match a.order? b with
    | some o => op.holds o
    | none => false

/-- The number with the other sign; other values give null. -/
def Value.negate : Value → Value
  | .number d => .number d.negate
  | _ => .null

namespace Expr

/-! ## Trees -/

/-- The value of a tree. -/
def eval (env : Surroundings) : Expr → Except EvalFault Value
  | .path p => (env.context.resolve p).mapError .badPath
  | .number d => .ok (.number d)
  | .text s => .ok (.text s)
  | .bool b => .ok (.bool b)
  | .null => .ok .null
  | .arithmetic op l r => do
    let a ← l.eval env
    let b ← r.eval env
    .ok (op.apply a b)
  | .negate e => do
    let v ← e.eval env
    .ok v.negate
  | .not e => do
    let v ← e.eval env
    .ok (.bool !v.isTruthy)
  | .comparison op l r => do
    let a ← l.eval env
    let b ← r.eval env
    .ok (.bool (op.apply a b))
  | .and l r => do
    let a ← l.eval env
    if a.isTruthy then r.eval env else .ok a
  | .or l r => do
    let a ← l.eval env
    if a.isTruthy then .ok a else r.eval env
  | .coalesce l r => do
    let a ← l.eval env
    if a.isNull then r.eval env else .ok a
  | .index target key member => do
    let t ← target.eval env
    let k ← key.eval env
    .ok (t.atKey k member)
  | .filter call input =>
    match env.filters.find? call.name with
    | none => .error (.unknownFilter call.name)
    | some f => do
      let v ← input.eval env
      (f.apply v (.ofTexts call.argument call.named) env.locale).mapError .filter

/-! ## Notes -/

/-- The notes that filters leave while a tree is evaluated, in order. -/
def notes (env : Surroundings) : Expr → List String
  | .path _ | .number _ | .text _ | .bool _ | .null => []
  | .negate e | .not e => e.notes env
  | .arithmetic _ l r | .comparison _ l r | .index l r _ =>
    l.notes env ++ (if (l.eval env).isOk then r.notes env else [])
  | .and l r =>
    l.notes env ++
      (match l.eval env with
      | .ok a => if a.isTruthy then r.notes env else []
      | .error _ => [])
  | .or l r =>
    l.notes env ++
      (match l.eval env with
      | .ok a => if a.isTruthy then [] else r.notes env
      | .error _ => [])
  | .coalesce l r =>
    l.notes env ++
      (match l.eval env with
      | .ok a => if a.isNull then r.notes env else []
      | .error _ => [])
  | .filter call input =>
    match env.filters.find? call.name with
    | none => []
    | some f =>
      input.notes env ++
        (match input.eval env with
        | .ok v => f.notes v (.ofTexts call.argument call.named) env.locale
        | .error _ => [])

end Expr
end ReceiptTemplate
