import ReceiptTemplate.Decimal.Text
import ReceiptTemplate.Expr.ParseError

/-!
# Tokens — the words of an expression

Reading a token takes characters from the front of the source.  At each place the longest symbol
comes first, then a number, a quoted text, and a path; `.` alone is the path of the current scope.
A `.` before a name is a symbol of its own unless it stands inside a path.

The keywords `true`, `false` and `null` are paths as written, so `nullable` and `true.x` stay paths.
-/

namespace ReceiptTemplate

open Unicode (isBlank isDecimalDigit)
open Text (readDigits)

inductive Symbol where
  | equal | notEqual | less | lessEqual | greater | greaterEqual
  | and | or | not | coalesce
  | plus | minus | times | divide
  | pipe | leftParen | rightParen | leftBracket | rightBracket | dot
deriving DecidableEq

namespace Symbol

def text : Symbol → String
  | .equal => "=="
  | .notEqual => "!="
  | .less => "<"
  | .lessEqual => "<="
  | .greater => ">"
  | .greaterEqual => ">="
  | .and => "&&"
  | .or => "||"
  | .not => "!"
  | .coalesce => "??"
  | .plus => "+"
  | .minus => "-"
  | .times => "*"
  | .divide => "/"
  | .pipe => "|"
  | .leftParen => "("
  | .rightParen => ")"
  | .leftBracket => "["
  | .rightBracket => "]"
  | .dot => "."

end Symbol

inductive Token where
  | number (d : Decimal)
  | text (s : String)
  | bool (b : Bool)
  | null
  | path (p : String)
  | symbol (s : Symbol)
  /-- The end of the source. -/
  | finish
deriving DecidableEq

namespace Token

/-! ## Names and paths -/

def isNameStart (c : Char) : Bool :=
  c.isAlpha || c == '_' || c == '@'

def isNameChar (c : Char) : Bool :=
  c.isAlphanum || c == '_' || c == '@'

/-- The rest of a name and what follows it; a hyphen belongs to a name between name characters. -/
def nameBody : List Char → List Char × List Char
  | [] => ([], [])
  | ['-'] => ([], ['-'])
  | '-' :: c :: cs =>
    if isNameChar c then
      let (name, rest) := nameBody cs
      ('-' :: c :: name, rest)
    else ([], '-' :: c :: cs)
  | c :: cs =>
    if isNameChar c then
      let (name, rest) := nameBody cs
      (c :: name, rest)
    else ([], c :: cs)

theorem nameBody_append (cs : List Char) : (nameBody cs).1 ++ (nameBody cs).2 = cs := by
  fun_induction nameBody cs <;> simp_all

theorem length_nameBody (cs : List Char) : (nameBody cs).2.length ≤ cs.length := by
  have := congrArg List.length (nameBody_append cs)
  rw [List.length_append] at this
  omega

/-- An index in brackets, digits and brackets included, and what follows it. -/
def bracketIndex? (cs : List Char) : Option (List Char × List Char) :=
  match cs.takeWhile isDecimalDigit, cs.dropWhile isDecimalDigit with
  | d :: ds, ']' :: rest => some ('[' :: d :: ds ++ [']'], rest)
  | _, _ => none

theorem bracketIndex?_append {cs index rest : List Char}
    (h : bracketIndex? cs = some (index, rest)) : index ++ rest = '[' :: cs := by
  unfold bracketIndex? at h
  split at h
  · next ht hd =>
    simp only [Option.some.injEq, Prod.mk.injEq] at h
    obtain ⟨rfl, rfl⟩ := h
    have := List.takeWhile_append_dropWhile (p := isDecimalDigit) (l := cs)
    rw [ht, hd] at this
    simp [← this]
  · exact absurd h (by simp)

theorem length_bracketIndex? {cs index rest : List Char}
    (h : bracketIndex? cs = some (index, rest)) : rest.length ≤ cs.length := by
  have hl := congrArg List.length (bracketIndex?_append h)
  have : index ≠ [] := by
    rintro rfl
    unfold bracketIndex? at h
    split at h <;> simp at h
  have := List.length_pos_iff.2 this
  simp only [List.length_append, List.length_cons] at hl
  omega

/-- The further segments of a path and what follows them. -/
def pathTail (cs : List Char) : List Char × List Char :=
  match cs with
  | '.' :: c :: tail =>
    if isNameStart c then
      let more := pathTail (nameBody tail).2
      ('.' :: c :: (nameBody tail).1 ++ more.1, more.2)
    else ([], cs)
  | '[' :: tail =>
    match _h : bracketIndex? tail with
    | some (index, rest) =>
      let more := pathTail rest
      (index ++ more.1, more.2)
    | none => ([], cs)
  | _ => ([], cs)
termination_by cs.length
decreasing_by
  · have := length_nameBody tail
    simp only [List.length_cons]
    omega
  · have := length_bracketIndex? ‹_›
    simp only [List.length_cons]
    omega

/-- A path and what follows it, if the characters start with a name. -/
def readPath? : List Char → Option (List Char × List Char)
  | [] => none
  | c :: cs =>
    if isNameStart c then
      let name := nameBody cs
      let more := pathTail name.2
      some (c :: name.1 ++ more.1, more.2)
    else none

/-- The keyword or path that a text spells. -/
def ofPathText (p : String) : Token :=
  if p = "true" then .bool true
  else if p = "false" then .bool false
  else if p = "null" then .null
  else .path p

/-! ## Quoted text -/

/-- The character that a backslash and the next character stand for. -/
def unescape (c : Char) : Char :=
  if c = 'n' then '\n' else if c = 't' then '\t' else c

/-- The text up to the closing quote and what follows it.  A backslash does not escape the end of a
line. -/
def quotedBody (quote : Char) : List Char → Option (List Char × List Char)
  | [] => none
  | ['\\'] => none
  | '\\' :: c :: cs =>
    if c = '\n' then none else (quotedBody quote cs).map fun p => (unescape c :: p.1, p.2)
  | c :: cs =>
    if c = quote then some ([], cs) else (quotedBody quote cs).map fun p => (c :: p.1, p.2)

theorem length_quotedBody {quote : Char} {cs body rest : List Char}
    (h : quotedBody quote cs = some (body, rest)) : rest.length < cs.length := by
  fun_induction quotedBody quote cs generalizing body with
  | case1 => simp at h
  | case2 => simp at h
  | case3 => simp at h
  | case4 c cs hc ih =>
    obtain ⟨p, hp, hq⟩ := Option.map_eq_some_iff.1 h
    cases hq
    have := ih hp
    simp only [List.length_cons]
    omega
  | case5 =>
    simp only [Option.some.injEq, Prod.mk.injEq] at h
    rw [← h.2]
    simp
  | case6 c cs _ _ hc ih =>
    obtain ⟨p, hp, hq⟩ := Option.map_eq_some_iff.1 h
    cases hq
    have := ih hp
    simp only [List.length_cons]
    omega

/-! ## Symbols and numbers -/

/-- The symbol at the head of the characters and what follows it. -/
def readSymbol? : List Char → Option (Symbol × List Char)
  | '=' :: '=' :: cs => some (.equal, cs)
  | '!' :: '=' :: cs => some (.notEqual, cs)
  | '<' :: '=' :: cs => some (.lessEqual, cs)
  | '>' :: '=' :: cs => some (.greaterEqual, cs)
  | '&' :: '&' :: cs => some (.and, cs)
  | '|' :: '|' :: cs => some (.or, cs)
  | '?' :: '?' :: cs => some (.coalesce, cs)
  | '<' :: cs => some (.less, cs)
  | '>' :: cs => some (.greater, cs)
  | '!' :: cs => some (.not, cs)
  | '+' :: cs => some (.plus, cs)
  | '-' :: cs => some (.minus, cs)
  | '*' :: cs => some (.times, cs)
  | '/' :: cs => some (.divide, cs)
  | '|' :: cs => some (.pipe, cs)
  | '(' :: cs => some (.leftParen, cs)
  | ')' :: cs => some (.rightParen, cs)
  | '[' :: cs => some (.leftBracket, cs)
  | ']' :: cs => some (.rightBracket, cs)
  | '.' :: c :: cs => if isNameStart c then some (.dot, c :: cs) else none
  | _ => none

/-- A number without a sign and what follows it. -/
def readNumber? (cs : List Char) : Option (Decimal × List Char) :=
  let whole := cs.takeWhile isDecimalDigit
  let rest := cs.dropWhile isDecimalDigit
  if whole.isEmpty then none
  else
    match rest with
    | '.' :: tail =>
      let fraction := tail.takeWhile isDecimalDigit
      if fraction.isEmpty then some (⟨false, readDigits whole, 0⟩, rest)
      else
        some (⟨false, readDigits (whole ++ fraction), -(fraction.length : Int)⟩,
          tail.dropWhile isDecimalDigit)
    | _ => some (⟨false, readDigits whole, 0⟩, rest)

/-! ## Reading a token -/

/-- The token at the head of the characters, which do not start with a blank, and what follows. -/
def read (cs : List Char) : Except Fault (Token × List Char) :=
  match readSymbol? cs with
  | some (s, rest) => .ok (.symbol s, rest)
  | none =>
    match readNumber? cs with
    | some (d, rest) => .ok (.number d, rest)
    | none =>
      match readPath? cs with
      | some (p, rest) => .ok (ofPathText (String.ofList p), rest)
      | none =>
        match cs with
        | [] => .ok (.finish, [])
        | c :: tail =>
          if c = '.' then .ok (.path ".", tail)
          else if c = '"' || c = '\'' then
            match quotedBody c tail with
            | some (body, rest) => .ok (.text (String.ofList body), rest)
            | none => .error (.at .unterminatedText cs)
          else .error (.at (.unexpectedCharacter c) cs)

/-- How a token is named in a message. -/
def shown : Token → String
  | .number d => d.scientific
  | .text s => s
  | .bool b => if b then "True" else "False"
  | .null => "None"
  | .path p => p
  | .symbol s => s.text
  | .finish => "None"

end Token

/-- A token with the characters from its first one on and those after it. -/
structure Lexeme where
  token : Token
  start : List Char
  rest : List Char

namespace Lexeme

/-- The first token after any blanks. -/
def next (cs : List Char) : Except Fault Lexeme :=
  let start := cs.dropWhile isBlank
  match Token.read start with
  | .ok (token, rest) => .ok ⟨token, start, rest⟩
  | .error fault => .error fault

/-- The token after this one. -/
def advance (t : Lexeme) : Except Fault Lexeme :=
  next t.rest

end Lexeme
end ReceiptTemplate
