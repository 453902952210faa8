import ReceiptTemplate.Decimal.Basic

/-!
# Expressions — the syntax trees of the template language

A tree holds literals, paths, operators, computed indexes and filter applications.  A path keeps its
text.  An index is a member when it was written as a dotted name, and then ignores case.
-/

namespace ReceiptTemplate

inductive Arithmetic where
  | add | subtract | multiply | divide
deriving DecidableEq

inductive Comparison where
  | equal | notEqual | less | greater | lessEqual | greaterEqual
deriving DecidableEq

/-- A filter as written after a pipe: its name, the text after a colon, and named texts and bare
flags in order. -/
structure FilterCall where
  name : String
  argument : Option String
  named : List (String × Option String)
deriving DecidableEq

inductive Expr where
  | path (text : String)
  | number (d : Decimal)
  | text (s : String)
  | bool (b : Bool)
  | null
  | arithmetic (op : Arithmetic) (left right : Expr)
  | negate (operand : Expr)
  | not (operand : Expr)
  | comparison (op : Comparison) (left right : Expr)
  | and (left right : Expr)
  | or (left right : Expr)
  | coalesce (left right : Expr)
  | index (target key : Expr) (member : Bool)
  | filter (call : FilterCall) (input : Expr)
deriving DecidableEq, Inhabited

namespace Arithmetic

def text : Arithmetic → String
  | .add => "+"
  | .subtract => "-"
  | .multiply => "*"
  | .divide => "/"

end Arithmetic

namespace Comparison

def text : Comparison → String
  | .equal => "=="
  | .notEqual => "!="
  | .less => "<"
  | .greater => ">"
  | .lessEqual => "<="
  | .greaterEqual => ">="

end Comparison

namespace Expr

/-- Nodes on the longest branch. -/
def height : Expr → Nat
  | .path _ | .number _ | .text _ | .bool _ | .null => 1
  | .negate e | .not e | .filter _ e => e.height + 1
  | .arithmetic _ l r | .comparison _ l r | .and l r | .or l r | .coalesce l r | .index l r _ =>
    max l.height r.height + 1

end Expr
end ReceiptTemplate
