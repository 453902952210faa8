import ReceiptTemplate.Expr.ParseError
import ReceiptTemplate.Text.Basic

/-!
# Templates — text with embedded expressions

An expression stands between double braces.  `cut` separates the text around the expressions from
what stands in them, without blanks at either end, from left to right: the first closing braces after
an opening end the expression, whatever it is.
-/

namespace ReceiptTemplate

/-- A part of a template. -/
inductive Piece where
  | literal (cs : List Char)
  | expression (source : String)
deriving DecidableEq

namespace Template

def opening : List Char := ['\x7b', '\x7b']

def closing : List Char := ['\x7d', '\x7d']

/-- Whether a text embeds an expression. -/
def containsExpression (raw : String) : Bool :=
  (Text.breakOn opening raw.toList).isSome

/-- The pieces of a template, and what starts at an opening that is never closed. -/
def cut (cs : List Char) : List Piece × Option (List Char) :=
  match _ho : Text.breakOn opening cs with
  | none => ([.literal cs], none)
  | some (before, inside) =>
    match _hc : Text.breakOn closing inside with
    | none => ([.literal before], some (opening ++ inside))
    | some (source, after) =>
      let (pieces, open?) := cut after
      (.literal before :: .expression (String.ofList (Text.stripChars source)) :: pieces, open?)
termination_by cs.length
decreasing_by
  have h1 := Text.length_after_of_breakOn (List.cons_ne_nil _ _) _ho
  have h2 := Text.length_after_of_breakOn (List.cons_ne_nil _ _) _hc
  omega

/-- The error of an opening at which `rest` starts. -/
def unclosed (raw : String) (rest : List Char) : ParseError :=
  ⟨.unclosedDelimiter, some (raw.toList.length - rest.length), raw⟩

end Template
end ReceiptTemplate
