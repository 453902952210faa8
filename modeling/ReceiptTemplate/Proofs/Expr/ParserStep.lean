import Mathlib.Control.Monad.Basic
import ReceiptTemplate.Expr.Parser

/-!
# Parser steps — what each token does to a parse in progress

An operand is read in two parts: `prefixed` reads up to the first operator that could follow, and
`chain` folds the operators.  The equations below say for each token how the parser goes on, and
what levels of its budget it hands over; further proofs use them and do not open the parser.
-/

namespace ReceiptTemplate
namespace Expr

variable {limit d : Nat} {p : Precedence} {compared : Bool} {e : Expr} {t : Lexeme}

/-! ## Steps in order -/

theorem ok_bind {α β : Type} (a : α) (f : α → Except Fault β) : (Except.ok a >>= f) = f a :=
  rfl

theorem advance_mk (token : Token) (start rest : List Char) :
    Lexeme.advance ⟨token, start, rest⟩ = Lexeme.next rest :=
  rfl

/-! ## Operands -/

/-- The part of an operand before the first operator: a unary operator with its operand, a literal,
or a path or group with its indexes. -/
def prefixed (limit d : Nat) (t : Lexeme) : Except Fault (Expr × Lexeme) :=
  match t.token with
  | .symbol .minus => do
    let t ← t.advance
    let (e, t) ← operand limit d .unary t
    .ok (.negate e, t)
  | .symbol .not => do
    let t ← t.advance
    let (e, t) ← operand limit d .unary t
    .ok (.not e, t)
  | .symbol .leftParen => do
    let t ← t.advance
    let (e, t) ← operand limit d .lowest t
    let t ← expect .rightParen .missingParenthesis t
    postfixes limit d [] e t
  | .path s => do
    let t ← t.advance
    let e ← ofPath s
    postfixes limit d [] e t
  | _ => literal t

/-- With a level to spend, an operand is its first part and the chain of operators after it. -/
theorem operand_succ :
    operand limit (d + 1) p t
      = prefixed limit d t >>= fun q => chain limit d p false q.1 q.2 := by
  rw [operand.eq_2]
  unfold prefixed
  split <;> simp_all only [bind_assoc]

theorem bind_operand_succ (next : Except Fault Lexeme) :
    (next >>= operand limit (d + 1) p)
      = (next >>= prefixed limit d) >>= fun q => chain limit d p false q.1 q.2 := by
  have hoperand : operand limit (d + 1) p
      = fun t => prefixed limit d t >>= fun q => chain limit d p false q.1 q.2 :=
    funext fun t => operand_succ
  rw [hoperand, bind_assoc]

theorem prefixed_of_minus (h : t.token = .symbol .minus) :
    prefixed limit d t
      = (t.advance >>= operand limit d .unary) >>= fun q => .ok (.negate q.1, q.2) := by
  unfold prefixed
  simp only [h, bind_assoc]

theorem prefixed_of_not (h : t.token = .symbol .not) :
    prefixed limit d t
      = (t.advance >>= operand limit d .unary) >>= fun q => .ok (.not q.1, q.2) := by
  unfold prefixed
  simp only [h, bind_assoc]

theorem prefixed_of_leftParen (h : t.token = .symbol .leftParen) :
    prefixed limit d t
      = (t.advance >>= operand limit d .lowest) >>= fun q =>
          expect .rightParen .missingParenthesis q.2 >>= postfixes limit d [] q.1 := by
  unfold prefixed
  simp only [h, bind_assoc]

theorem prefixed_of_path {s : String} (h : t.token = .path s) :
    prefixed limit d t = t.advance >>= fun u => ofPath s >>= fun e => postfixes limit d [] e u := by
  unfold prefixed
  simp only [h]

/-- The tree of a token that is a whole operand by itself. -/
def leaf? : Token → Option Expr
  | .number n => some (.number n)
  | .text s => some (.text s)
  | .bool b => some (.bool b)
  | .null => some .null
  | _ => none

theorem prefixed_of_leaf (h : leaf? t.token = some e) :
    prefixed limit d t = t.advance >>= fun u => .ok (e, u) := by
  have hmap : (t.advance.map fun u => (e, u)) = t.advance >>= fun u => .ok (e, u) := by
    cases t.advance <;> rfl
  rw [← hmap]
  unfold prefixed literal
  cases ht : t.token <;> simp only [ht, leaf?, Option.some.injEq, reduceCtorEq] at h <;>
    subst h <;> rfl

/-! ## Indexes and members -/

theorem postfixes_of_leftBracket (h : t.token = .symbol .leftBracket) :
    postfixes limit (d + 1) [] e t
      = (t.advance >>= operand limit d .lowest) >>= fun q =>
          expect .rightBracket .missingBracket q.2 >>=
            postfixes limit d [] (.index e q.1 false) := by
  rw [postfixes.eq_4]
  simp only [h, bind_assoc]

theorem postfixes_of_dot {s : Segment} {next : Except Fault Lexeme} (h : t.token = .symbol .dot)
    (hmember : memberSegments t = next >>= fun u => .ok ([s], u)) :
    postfixes limit (d + 1) [] e t = next >>= postfixes limit d [] (member e s) := by
  rw [postfixes.eq_4]
  simp [h, hmember, bind_assoc, ok_bind]

/-- A member that is refused is refused whether or not there is a level left for it. -/
theorem postfixes_of_dot_error {fault : Fault} (h : t.token = .symbol .dot)
    (hmember : memberSegments t = .error fault) : postfixes limit d [] e t = .error fault := by
  cases d with
  | zero =>
    rw [postfixes.eq_1, h]
    simp only [hmember]
    rfl
  | succ d =>
    rw [postfixes.eq_4, h]
    simp only [hmember]
    rfl

theorem postfixes_of_other (hbracket : t.token ≠ .symbol .leftBracket)
    (hdot : t.token ≠ .symbol .dot) : postfixes limit d [] e t = .ok (e, t) := by
  -- The same holds with and without levels left, by different equations of the parser.
  cases d with
  | zero =>
    rw [postfixes.eq_1]
    split <;> simp_all
  | succ d =>
    rw [postfixes.eq_4]
    split <;> simp_all

/-! ## Chains of operators -/

theorem chain_of_none (h : Infix.ofToken? t.token = none) :
    chain limit d p compared e t = .ok (e, t) := by
  rw [chain]
  simp only [h]

theorem chain_of_not_continues {op : Infix} (h : Infix.ofToken? t.token = some op)
    (hop : op.continues p = false) : chain limit d p compared e t = .ok (e, t) := by
  rw [chain]
  simp [h, hop]

theorem chain_of_filter (h : t.token = .symbol .pipe) (hp : Infix.filter.continues p = true) :
    chain limit (d + 1) p compared e t
      = filterCall t >>= fun q => chain limit d p false (.filter q.1 e) q.2 := by
  rw [chain]
  simp [h, hp, Infix.ofToken?, Infix.precedence]

theorem chain_of_operator {op : Infix} (h : Infix.ofToken? t.token = some op) (hfilter : op ≠ .filter)
    (hp : op.continues p = true) (hcompared : op.precedence = .comparison → compared = false) :
    chain limit (d + 1) p compared e t
      = (t.advance >>= operand limit d op.precedence) >>= fun q =>
          chain limit d p (op.precedence == .comparison) (op.apply e q.1) q.2 := by
  -- The parser refuses a comparison of a comparison before it reads on.
  have hchain : ¬(op.precedence = .comparison ∧ compared = true) := by
    rintro ⟨hprec, htrue⟩
    rw [hcompared hprec] at htrue
    cases htrue
  rw [chain]
  cases op with
  | filter => exact absurd rfl hfilter
  | _ => simp [h, hp, hchain, bind_assoc]

/-- After a comparison no other one goes on with the chain. -/
theorem chain_of_compared {op : Infix} (h : Infix.ofToken? t.token = some op)
    (hp : op.continues p = true) (hcomparison : op.precedence = .comparison) :
    chain limit d p true e t = .error (.at .chainedComparison t.start) := by
  rw [chain]
  simp [h, hp, hcomparison]

/-! ## Whole sources -/

/-- A source that is neither blank nor too long has the tree or the fault of its characters. -/
theorem parse_eq {limits : Limits} {source : String} (hblank : ¬Text.isAllBlank source = true)
    (hlength : source.length ≤ limits.length) :
    parse limits source
      = (parseChars limits.depth source.toList).mapError (Fault.toError source.toList) := by
  have hlong : ¬limits.length < source.toList.length := by
    rw [String.length_toList]
    exact Nat.not_lt.2 hlength
  unfold parse
  simp only [if_neg hblank, if_neg hlong]

theorem parseChars_of_parse {limits : Limits} {source : String} (h : parse limits source = .ok e) :
    parseChars limits.depth source.toList = .ok e := by
  unfold parse at h
  dsimp only at h
  split at h
  · cases h
  · split at h
    · cases h
    · cases hparse : parseChars limits.depth source.toList with
      | error fault =>
        rw [hparse] at h
        cases h
      | ok e' =>
        rw [hparse] at h
        cases h
        rfl

end Expr
end ReceiptTemplate
