import ReceiptTemplate.Expr.Token
import ReceiptTemplate.Expr.Basic
import ReceiptTemplate.Text.Constructor
import ReceiptTemplate.Value.ConstructorText

/-!
# Constructor text of trees and tokens — syntax with every part named

The form shows the tree that a source was read as, node by node, and a token with its kind and its
position.
-/

namespace ReceiptTemplate

/-! ## Trees -/

namespace Arithmetic

def name : Arithmetic → String
  | .add => "ADD"
  | .subtract => "SUBTRACT"
  | .multiply => "MULTIPLY"
  | .divide => "DIVIDE"

def constructorText (op : Arithmetic) : String :=
  "<ArithmeticOperator." ++ op.name ++ ": " ++ Text.quoted op.text ++ ">"

end Arithmetic

namespace Comparison

def name : Comparison → String
  | .equal => "EQUAL"
  | .notEqual => "NOT_EQUAL"
  | .less => "LESS_THAN"
  | .greater => "GREATER_THAN"
  | .lessEqual => "LESS_THAN_OR_EQUAL"
  | .greaterEqual => "GREATER_THAN_OR_EQUAL"

def constructorText (op : Comparison) : String :=
  "<ComparisonOperator." ++ op.name ++ ": " ++ Text.quoted op.text ++ ">"

end Comparison

namespace FilterCall

/-- A named argument; a bare flag has no value. -/
def namedText (p : String × Option String) : String :=
  Text.constructor "FilterNamedArgument"
    [("name", Text.quoted p.1), ("value", Text.optional (p.2.map Text.quoted))]

end FilterCall

namespace Expr

def constructorText : Expr → String
  | .path p => Text.constructor "Path" [("path", Text.quoted p)]
  | .number d => Text.constructor "NumberLiteral" [("value", d.constructorText)]
  | .text s => Text.constructor "StringLiteral" [("value", Text.quoted s)]
  | .bool b => Text.constructor "BoolLiteral" [("value", Text.truth b)]
  | .null => Text.constructor "NullLiteral" []
  | .arithmetic op l r =>
    Text.constructor "Arithmetic" [("operator", op.constructorText),
      ("left", l.constructorText), ("right", r.constructorText)]
  | .negate e => Text.constructor "Negate" [("operand", e.constructorText)]
  | .not e => Text.constructor "Not" [("operand", e.constructorText)]
  | .comparison op l r =>
    Text.constructor "Comparison" [("operator", op.constructorText),
      ("left", l.constructorText), ("right", r.constructorText)]
  | .and l r =>
    Text.constructor "LogicalAnd" [("left", l.constructorText), ("right", r.constructorText)]
  | .or l r =>
    Text.constructor "LogicalOr" [("left", l.constructorText), ("right", r.constructorText)]
  | .coalesce l r =>
    Text.constructor "Coalesce" [("left", l.constructorText), ("right", r.constructorText)]
  | .index target key member =>
    Text.constructor "Index" [("target", target.constructorText), ("key", key.constructorText),
      ("member", Text.truth member)]
  | .filter call input =>
    Text.constructor "Filter" [("name", Text.quoted call.name), ("input", input.constructorText),
      ("argument", Text.optional (call.argument.map Text.quoted)),
      ("named_arguments", Text.tuple (call.named.map FilterCall.namedText))]

end Expr

/-! ## Tokens -/

namespace Symbol

def name : Symbol → String
  | .equal => "EQ"
  | .notEqual => "NEQ"
  | .less => "LT"
  | .lessEqual => "LTE"
  | .greater => "GT"
  | .greaterEqual => "GTE"
  | .and => "AND"
  | .or => "OR"
  | .not => "NOT"
  | .coalesce => "COALESCE"
  | .plus => "PLUS"
  | .minus => "MINUS"
  | .times => "MULTIPLY"
  | .divide => "DIVIDE"
  | .pipe => "PIPE"
  | .leftParen => "LPAREN"
  | .rightParen => "RPAREN"
  | .leftBracket => "LBRACKET"
  | .rightBracket => "RBRACKET"
  | .dot => "DOT"

end Symbol

namespace Token

def kind : Token → String
  | .number _ => "NUMBER"
  | .text _ => "STRING"
  | .bool _ => "BOOLEAN"
  | .null => "NULL"
  | .path _ => "PATH"
  | .symbol s => s.name
  | .finish => "EOF"

/-- What a token carries beside its kind. -/
def contentText : Token → String
  | .number d => d.constructorText
  | .text s => Text.quoted s
  | .bool b => Text.truth b
  | .null => Text.optional none
  | .path p => Text.quoted p
  | .symbol s => Text.quoted s.text
  | .finish => Text.optional none

def constructorText (t : Token) (position : Nat) : String :=
  s!"Token({t.kind}, {t.contentText}, pos={position})"

end Token
end ReceiptTemplate
