import ReceiptTemplate.Text.Integer

/-!
# Parse errors — why a text is no expression, and where

A cause carries what its message needs.  A `Fault` says where reading stopped in terms of the
characters that were left; `Fault.toError` turns that into a position once the source is known.
-/

namespace ReceiptTemplate

inductive ParseCause where
  | emptyExpression
  | tooLong (length limit : Nat)
  | tooDeep (limit : Nat)
  | pathTooLong (length limit : Nat)
  | indexTooLarge (index limit : Nat)
  | unexpectedToken (text : String)
  | unexpectedEnd
  | missingParenthesis
  | missingBracket
  | missingMember
  | chainedComparison
  | unclosedDelimiter
  | unexpectedCharacter (c : Char)
  | unterminatedText
  | missingFilterName
  | badFilterName (name : String)
  | missingArgument
  | unterminatedArgument
deriving DecidableEq

namespace ParseCause

def message : ParseCause → String
  | .emptyExpression => "Empty expression"
  | .tooLong length limit => s!"Expression length ({length}) exceeds maximum ({limit})"
  | .tooDeep limit => s!"Expression nesting depth exceeds maximum ({limit})"
  | .pathTooLong length limit => s!"Path length ({length}) exceeds maximum ({limit})"
  | .indexTooLarge index limit => s!"Array index ({index}) exceeds maximum ({limit})"
  | .unexpectedToken text => s!"Unexpected token '{text}'"
  | .unexpectedEnd => "Unexpected end of expression"
  | .missingParenthesis => "Missing closing parenthesis"
  | .missingBracket => "Expected ']' after index"
  | .missingMember => "Expected name after '.'"
  | .chainedComparison =>
    "Chained comparisons are not supported; combine comparisons with && or ||"
  | .unclosedDelimiter => "Unclosed expression delimiter '\x7b\x7b'"
  | .unexpectedCharacter c => s!"Unexpected character '{c}'"
  | .unterminatedText => "Unterminated string literal"
  | .missingFilterName => "Expected filter name after '|'"
  | .badFilterName name => s!"Invalid filter name '{name}'. Filter names must be alphanumeric"
  | .missingArgument => "Expected filter argument after ':'"
  | .unterminatedArgument => "Unterminated string in filter argument"

/-- Whether the cause lies in the characters of the source and not in the order of its tokens. -/
def isLexical : ParseCause → Bool
  | .unexpectedCharacter _ | .unterminatedText | .missingFilterName | .badFilterName _
  | .missingArgument | .unterminatedArgument => true
  | _ => false

end ParseCause

/-- A message with a position and an expression, as far as they are known; an empty expression is
not shown. -/
def locatedMessage (message : String) (position : Option Nat) (expression : String) : String :=
  message ++
    (match position with
    | some n => s!" at position {n}"
    | none => "") ++
    (if expression = "" then "" else s!" in expression '{expression}'")

structure ParseError where
  cause : ParseCause
  position : Option Nat
  expression : String
deriving DecidableEq

def ParseError.message (e : ParseError) : String :=
  locatedMessage e.cause.message e.position e.expression

/-- Where reading failed. -/
inductive Fault where
  /-- At the character from which `rest` is left. -/
  | at (cause : ParseCause) (rest : List Char)
  /-- Somewhere in the source. -/
  | overall (cause : ParseCause)
  /-- In a part that is shown in place of the source. -/
  | part (error : ParseError)

def Fault.toError (source : List Char) : Fault → ParseError
  | .at cause rest => ⟨cause, some (source.length - rest.length), String.ofList source⟩
  | .overall cause => ⟨cause, none, String.ofList source⟩
  | .part error => error

end ReceiptTemplate
