import ReceiptTemplate.Expr.Parser
import ReceiptTemplate.Proofs.Expr.CallText

/-!
# Written trees — the text of an expression

A tree is written with single blanks around its operators, and with parentheses only where the order
of the operators asks for them.  This file defines

* `Expr.chars` — the text of a tree;
* `Expr.Printable` — the trees that have a text;
* `Expr.levels` — the levels of depth that the parser spends on that text.

A literal is written like a unary operand: an index or a member after it needs parentheses, since
only paths and groups take one.
-/

namespace ReceiptTemplate

open Token (isName quotedChars)

/-! ## Operators -/

namespace Infix

def symbol : Infix → Symbol
  | .filter => .pipe
  | .coalesce => .coalesce
  | .or => .or
  | .and => .and
  | .comparison .equal => .equal
  | .comparison .notEqual => .notEqual
  | .comparison .less => .less
  | .comparison .greater => .greater
  | .comparison .lessEqual => .lessEqual
  | .comparison .greaterEqual => .greaterEqual
  | .arithmetic .add => .plus
  | .arithmetic .subtract => .minus
  | .arithmetic .multiply => .times
  | .arithmetic .divide => .divide

def rank (op : Infix) : Nat :=
  op.precedence.rank

/-- The least rank of a left operand without parentheses.  Operators group to the left, apart from
`??` and the comparisons. -/
def leftRank : Infix → Nat
  | .coalesce => Infix.coalesce.rank + 1
  | .comparison op => (Infix.comparison op).rank + 1
  | op => op.rank

/-- The least rank of a right operand without parentheses. -/
def rightRank : Infix → Nat
  | .coalesce => Infix.coalesce.rank
  | op => op.rank + 1

theorem ofToken?_symbol (op : Infix) : ofToken? (.symbol op.symbol) = some op := by
  cases op with
  | comparison op => cases op <;> rfl
  | arithmetic op => cases op <;> rfl
  | _ => rfl

/-- Symbols that stand between no operands are none of an operator. -/
theorem symbol_ne (op : Infix) {s : Symbol} (h : ofToken? (.symbol s) = none) : op.symbol ≠ s := by
  rintro rfl
  rw [ofToken?_symbol] at h
  cases h

theorem rank_pos (op : Infix) : 0 < op.rank := by
  cases op with
  | comparison op => exact Nat.succ_pos _
  | arithmetic op => cases op <;> decide
  | _ => decide

theorem rank_lt_unary (op : Infix) : op.rank < Precedence.unary.rank := by
  cases op with
  | comparison op => cases op <;> decide
  | arithmetic op => cases op <;> decide
  | _ => decide

theorem rank_le_leftRank (op : Infix) : op.rank ≤ op.leftRank := by
  cases op <;> simp [leftRank]

theorem rank_le_rightRank (op : Infix) : op.rank ≤ op.rightRank := by
  cases op <;> simp [rightRank]

end Infix

namespace Expr

/-! ## Ranks -/

/-- How tightly the outermost construct of a tree binds. -/
def rank : Expr → Nat
  | .filter _ _ => Infix.filter.rank
  | .coalesce _ _ => Infix.coalesce.rank
  | .or _ _ => Infix.or.rank
  | .and _ _ => Infix.and.rank
  | .comparison op _ _ => (Infix.comparison op).rank
  | .arithmetic op _ _ => (Infix.arithmetic op).rank
  | .negate _ | .not _ | .number _ | .text _ | .bool _ | .null => Precedence.unary.rank
  | .path _ | .index _ _ _ => Precedence.unary.rank + 1

/-- One of two values, by whether a tree stands at rank `k` without parentheses. -/
def bare {α : Type} (k : Nat) (e : Expr) (plain grouped : α) : α :=
  if k ≤ e.rank then plain else grouped

theorem bare_le {k a b c : Nat} {e : Expr} (ha : a ≤ c) (hb : b ≤ c) : e.bare k a b ≤ c := by
  unfold bare
  split
  · exact ha
  · exact hb

/-! ## Text -/

/-- The text of a tree at rank `k`, from its text on its own. -/
def enclose (k : Nat) (e : Expr) (cs : List Char) : List Char :=
  e.bare k cs ('(' :: cs ++ [')'])

def infixChars (op : Infix) (l r : Expr) (lcs rcs : List Char) : List Char :=
  enclose op.leftRank l lcs ++ ' ' :: (op.symbol.text.toList ++ ' ' :: enclose op.rightRank r rcs)

/-- The name in a member index. -/
def memberName : Expr → List Char
  | .text s => s.toList
  | _ => []

def chars : Expr → List Char
  | .path s => s.toList
  | .number d => d.plainChars
  | .text s => quotedChars s
  | .bool b => if b then "true".toList else "false".toList
  | .null => "null".toList
  | .arithmetic op l r => infixChars (.arithmetic op) l r l.chars r.chars
  | .comparison op l r => infixChars (.comparison op) l r l.chars r.chars
  | .and l r => infixChars .and l r l.chars r.chars
  | .or l r => infixChars .or l r l.chars r.chars
  | .coalesce l r => infixChars .coalesce l r l.chars r.chars
  | .negate e => '-' :: ' ' :: enclose Precedence.unary.rank e e.chars
  | .not e => '!' :: ' ' :: enclose Precedence.unary.rank e e.chars
  | .index t k false =>
    enclose (Precedence.unary.rank + 1) t t.chars ++ ' ' :: '[' :: ' ' :: (k.chars ++ [' ', ']'])
  | .index t k true =>
    enclose (Precedence.unary.rank + 1) t t.chars ++ ' ' :: '.' :: memberName k
  | .filter call e => e.chars ++ ' ' :: '|' :: ' ' :: call.chars

/-- The text of a tree. -/
def written (e : Expr) : String :=
  String.ofList e.chars

/-! ## Trees that have a text -/

def IsKeyword (s : String) : Prop :=
  s = "true" ∨ s = "false" ∨ s = "null"

/-- A path text is a path unless it is a keyword. -/
theorem ofPathText_eq_path_iff {s : String} : Token.ofPathText s = .path s ↔ ¬IsKeyword s := by
  unfold Token.ofPathText IsKeyword
  split_ifs <;> simp_all

/-- The text of a path: the current scope, or a path within the limits that is no keyword. -/
def IsPath (s : String) : Prop :=
  s = "." ∨ ∃ t : PathText, t.text = s ∧ t.InLimits ∧ ¬IsKeyword s

/-- A name that a member index may have: a path of one name. -/
structure IsMember (name : String) : Prop where
  isName : isName name.toList = true
  length : name.length ≤ Path.maxLength
  notKeyword : ¬IsKeyword name

/-- The trees that have a text.  Numbers are written without a sign and without an exponent. -/
def Printable : Expr → Prop
  | .path s => IsPath s
  | .number d => d.negative = false ∧ d.exponent ≤ 0
  | .text _ | .bool _ | .null => True
  | .arithmetic _ l r | .comparison _ l r | .and l r | .or l r | .coalesce l r
  | .index l r false => l.Printable ∧ r.Printable
  | .index t k true => t.Printable ∧ ∃ name, k = .text name ∧ IsMember name
  | .negate e | .not e => e.Printable
  | .filter call e => call.WellNamed ∧ e.Printable

/-! ## Depth -/

/-- Indexes and members that the parser adds to the first target of a text. -/
def steps : Expr → Nat
  | .index t _ _ => t.bare (Precedence.unary.rank + 1) t.steps 0 + 1
  | _ => 0

/-- Operators that the parser folds one after another into the first operand of a text. -/
def folds : Expr → Nat
  | .arithmetic op l _ => l.bare (Infix.arithmetic op).leftRank l.folds 0 + 1
  | .comparison op l _ => l.bare (Infix.comparison op).leftRank l.folds 0 + 1
  | .and l _ => l.bare Infix.and.leftRank l.folds 0 + 1
  | .or l _ => l.bare Infix.or.leftRank l.folds 0 + 1
  | .coalesce l _ => l.bare Infix.coalesce.leftRank l.folds 0 + 1
  | .filter _ e => e.folds + 1
  | _ => 0

/-- The levels for an operator with its operands, from those of each operand. -/
def infixLevels (op : Infix) (l r : Expr) (llevels rlevels : Nat) : Nat :=
  max (l.bare op.leftRank llevels (llevels + 1))
    (l.bare op.leftRank l.folds 0 + 2 + r.bare op.rightRank rlevels (rlevels + 1))

/-- Levels of depth that the parser spends on the text of a tree. -/
def levels : Expr → Nat
  | .path _ | .number _ | .text _ | .bool _ | .null => 1
  | .negate e | .not e => e.bare Precedence.unary.rank e.levels (e.levels + 1) + 1
  | .arithmetic op l r => infixLevels (.arithmetic op) l r l.levels r.levels
  | .comparison op l r => infixLevels (.comparison op) l r l.levels r.levels
  | .and l r => infixLevels .and l r l.levels r.levels
  | .or l r => infixLevels .or l r l.levels r.levels
  | .coalesce l r => infixLevels .coalesce l r l.levels r.levels
  | .index t k member =>
    max (t.bare (Precedence.unary.rank + 1) t.levels (t.levels + 1))
      (t.bare (Precedence.unary.rank + 1) t.steps 0 + 2 + if member then 0 else k.levels)
  | .filter _ e => max e.levels (e.folds + 2)

end Expr
end ReceiptTemplate
