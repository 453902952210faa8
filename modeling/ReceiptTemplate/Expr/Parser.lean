import ReceiptTemplate.Expr.FilterCall
import ReceiptTemplate.Expr.Path

/-!
# Parsing — from the text of an expression to its tree

Operators bind in the order `|`, `??`, `||`, `&&`, comparisons, `+ -`, `* /`, unary `! -`, from the
loosest to the tightest.  All group to the left except `??`, which groups to the right, and
comparisons, which do not chain.  Postfix indexes and dotted members bind tightest.

The parser reads with a depth budget.  Each nested operand takes one level, and so does each operator
folded into a chain and each postfix step.  The recursion descends on the budget.  A level is given back
when its operand is complete, so that a budget of `D` levels does not keep trees at that height: they have
up to `D * (D - 1) + 1` nodes on a branch.
-/

namespace ReceiptTemplate

/-! ## Operators between operands -/

inductive Precedence where
  | lowest | filter | coalesce | or | and | comparison | additive | multiplicative | unary
deriving DecidableEq

namespace Precedence

def rank : Precedence → Nat
  | .lowest => 0
  | .filter => 1
  | .coalesce => 2
  | .or => 3
  | .and => 4
  | .comparison => 5
  | .additive => 6
  | .multiplicative => 7
  | .unary => 8

end Precedence

inductive Infix where
  | filter | coalesce | or | and
  | comparison (op : Comparison)
  | arithmetic (op : Arithmetic)
deriving DecidableEq

namespace Infix

def ofToken? : Token → Option Infix
  | .symbol .pipe => some .filter
  | .symbol .coalesce => some .coalesce
  | .symbol .or => some .or
  | .symbol .and => some .and
  | .symbol .equal => some (.comparison .equal)
  | .symbol .notEqual => some (.comparison .notEqual)
  | .symbol .less => some (.comparison .less)
  | .symbol .lessEqual => some (.comparison .lessEqual)
  | .symbol .greater => some (.comparison .greater)
  | .symbol .greaterEqual => some (.comparison .greaterEqual)
  | .symbol .plus => some (.arithmetic .add)
  | .symbol .minus => some (.arithmetic .subtract)
  | .symbol .times => some (.arithmetic .multiply)
  | .symbol .divide => some (.arithmetic .divide)
  | _ => none

def precedence : Infix → Precedence
  | .filter => .filter
  | .coalesce => .coalesce
  | .or => .or
  | .and => .and
  | .comparison _ => .comparison
  | .arithmetic .add | .arithmetic .subtract => .additive
  | .arithmetic .multiply | .arithmetic .divide => .multiplicative

/-- Whether an operator continues an operand that is read at precedence `p`. -/
def continues (op : Infix) (p : Precedence) : Bool :=
  p.rank < op.precedence.rank || (op == .coalesce && p == .coalesce)

/-- The tree of an operator and its operands; a filter takes no right operand. -/
def apply (op : Infix) (left right : Expr) : Expr :=
  match op with
  | .filter => left
  | .coalesce => .coalesce left right
  | .or => .or left right
  | .and => .and left right
  | .comparison op => .comparison op left right
  | .arithmetic op => .arithmetic op left right

end Infix

namespace Expr

/-! ## Steps without operands -/

/-- The token after `t` if `t` is the symbol `s`. -/
def expect (s : Symbol) (cause : ParseCause) (t : Lexeme) : Except Fault Lexeme :=
  if t.token = .symbol s then t.advance else .error (.at cause t.start)

/-- The tree of a path; a path over the limits is a fault of the whole source. -/
def ofPath (p : String) : Except Fault Expr :=
  match Path.split p with
  | .ok _ => .ok (.path p)
  | .error e => .error (.overall e.cause)

/-- A literal and the token after it. -/
def literal (t : Lexeme) : Except Fault (Expr × Lexeme) :=
  let leaf (e : Expr) : Except Fault (Expr × Lexeme) := t.advance.map fun t => (e, t)
  match t.token with
  | .number d => leaf (.number d)
  | .text s => leaf (.text s)
  | .bool b => leaf (.bool b)
  | .null => leaf .null
  | .finish => .error (.at .unexpectedEnd t.start)
  | token => .error (.at (.unexpectedToken token.shown) t.start)

/-- The segments of the member name after a dot, and the token after it. -/
def memberSegments (t : Lexeme) : Except Fault (List Segment × Lexeme) := do
  let t ← t.advance
  match t.token with
  | .path p =>
    let next ← t.advance
    match Path.split p with
    | .ok segments => .ok (segments, next)
    | .error e => .error (.part e)
  | _ => .error (.at .missingMember t.start)

/-- The index that a segment after a dot stands for. -/
def member (target : Expr) : Segment → Expr
  | .name s => .index target (.text s) true
  | .index n => .index target (.number (.ofNat n)) false

/-- The filter call after the pipe `t`, and the token after it. -/
def filterCall (t : Lexeme) : Except Fault (FilterCall × Lexeme) := do
  let (call, rest) ← FilterCall.read t.rest
  let next ← Lexeme.next rest
  .ok (call, next)

/-! ## Operands and chains -/

mutual

/-- An operand whose operators bind tighter than `p`, read with a budget of levels. -/
def operand (limit : Nat) : Nat → Precedence → Lexeme → Except Fault (Expr × Lexeme)
  | 0, _, _ => .error (.overall (.tooDeep limit))
  | d + 1, p, t => do
    let (left, t) ←
      match t.token with
      | .symbol .minus => do
        let t ← t.advance
        let (e, t) ← operand limit d .unary t
        .ok (.negate e, t)
      | .symbol .not => do
        let t ← t.advance
        let (e, t) ← operand limit d .unary t
        .ok (.not e, t)
      | .symbol .leftParen => do
        let t ← t.advance
        let (e, t) ← operand limit d .lowest t
        let t ← expect .rightParen .missingParenthesis t
        postfixes limit d [] e t
      | .path s => do
        let t ← t.advance
        let e ← ofPath s
        postfixes limit d [] e t
      | _ => literal t
    chain limit d p false left t

/-- The indexes and members after an operand; `members` are those still to be applied. -/
def postfixes (limit : Nat) : Nat → List Segment → Expr → Lexeme → Except Fault (Expr × Lexeme)
  | 0, [], e, t =>
    match t.token with
    | .symbol .leftBracket => do
      let _ ← t.advance
      .error (.overall (.tooDeep limit))
    | .symbol .dot => do
      let (segments, t) ← memberSegments t
      if segments.isEmpty then .ok (e, t) else .error (.overall (.tooDeep limit))
    | _ => .ok (e, t)
  | 0, _ :: _, _, _ => .error (.overall (.tooDeep limit))
  | d + 1, s :: members, e, t => postfixes limit d members (member e s) t
  | d + 1, [], e, t =>
    match t.token with
    | .symbol .leftBracket => do
      let t ← t.advance
      let (key, t) ← operand limit d .lowest t
      let t ← expect .rightBracket .missingBracket t
      postfixes limit d [] (.index e key false) t
    | .symbol .dot => do
      let (segments, t) ← memberSegments t
      match segments with
      | [] => .ok (e, t)
      | s :: members => postfixes limit d members (member e s) t
    | _ => .ok (e, t)

/-- The operators after an operand as long as they bind tighter than `p`; `compared` says that the
last one was a comparison. -/
def chain (limit : Nat) : Nat → Precedence → Bool → Expr → Lexeme → Except Fault (Expr × Lexeme)
  | d, p, compared, left, t =>
    match Infix.ofToken? t.token with
    | none => .ok (left, t)
    | some op =>
      if !op.continues p then .ok (left, t)
      else if op.precedence = .comparison ∧ compared then .error (.at .chainedComparison t.start)
      else
        match d with
        | 0 => .error (.overall (.tooDeep limit))
        | d + 1 =>
          match op with
          | .filter => do
            let (call, t) ← filterCall t
            chain limit d p false (.filter call left) t
          | op => do
            let t ← t.advance
            let (right, t) ← operand limit d op.precedence t
            chain limit d p (op.precedence == .comparison) (op.apply left right) t

end

/-! ## Whole expressions -/

/-- The limits within which an expression is accepted. -/
structure Limits where
  length : Nat
  depth : Nat
deriving DecidableEq

def Limits.standard : Limits := ⟨2000, 50⟩

/-- The tree of a source that is neither blank nor too long. -/
def parseChars (depth : Nat) (cs : List Char) : Except Fault Expr := do
  let t ← Lexeme.next cs
  let (e, t) ← operand depth depth .lowest t
  if t.token = .finish then .ok e else .error (.at (.unexpectedToken t.token.shown) t.start)

/-- The tree of an expression. -/
def parse (limits : Limits) (source : String) : Except ParseError Expr :=
  let cs := source.toList
  if Text.isAllBlank source then .error ⟨.emptyExpression, none, source⟩
  else if limits.length < cs.length then
    .error ⟨.tooLong cs.length limits.length, none, String.ofList (cs.take 100 ++ "...".toList)⟩
  else (parseChars limits.depth cs).mapError (Fault.toError cs)

/-! ## Bare paths -/

/-- Whether a source is one path and nothing else. -/
def isSimplePath (source : String) : Bool :=
  match Token.readPath? source.toList with
  | some (p, []) => Token.ofPathText (String.ofList p) = .path (String.ofList p)
  | _ => false

/-- The tree of a source that is a bare path. -/
def parsePath (source : String) : Except ParseError Expr :=
  (ofPath source).mapError (Fault.toError source.toList)

/-! ## Token lists -/

/-- The tokens of a source up to its end or to the first fault, with their positions. -/
def tokens (source : String) : List (Token × Nat) × Option ParseError :=
  let cs := source.toList
  go cs (cs.length + 1) cs
where
  go (source : List Char) : Nat → List Char → List (Token × Nat) × Option ParseError
    | 0, _ => ([], none)
    | fuel + 1, cs =>
      match Lexeme.next cs with
      | .error fault => ([], some (fault.toError source))
      | .ok t =>
        let item := (t.token, source.length - t.start.length)
        if t.token = .finish then ([item], none)
        else
          let (items, e) := go source fuel t.rest
          (item :: items, e)

end Expr
end ReceiptTemplate
