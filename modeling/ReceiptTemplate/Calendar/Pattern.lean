import ReceiptTemplate.Text.Basic

/-!
# Date patterns — letters for the parts of a moment

A run of one letter is a field, and its length chooses the form.  Other characters, and text in quotes,
stand for themselves; two quotes in a row stand for one.  What follows a quote that is never closed is
dropped.
-/

namespace ReceiptTemplate

inductive DateItem where
  | literal (c : Char)
  | field (letter : Char) (length : Nat)
deriving DecidableEq

namespace DateItem

/-! ## Fields -/

/-- Whether a letter names a field. -/
def isFieldLetter (c : Char) : Bool :=
  "GyYuQqMLwWdDFgEecabBhHKkmsSAzZOvVxX".toList.contains c

/-- Whether a field may have a length. -/
def isAllowed (letter : Char) (length : Nat) : Bool :=
  match letter with
  | 'y' | 'Y' | 'u' | 'S' | 'A' => true
  | 'G' | 'Q' | 'q' | 'M' | 'L' | 'a' | 'b' | 'B' | 'Z' | 'x' | 'X' => length ≤ 5
  | 'w' | 'd' | 'h' | 'H' | 'K' | 'k' | 'm' | 's' => length ≤ 2
  | 'W' | 'F' => length ≤ 1
  | 'D' => length ≤ 3
  | 'E' | 'e' => length ≤ 6
  | 'c' => length ≤ 6 && length != 2
  | 'z' | 'V' => length ≤ 4
  | 'O' | 'v' => length == 1 || length == 4
  | _ => false

/-! ## Reading -/

/-- The character that stands for a doubled quote until the items are cut. -/
def quoteMark : Char := '\x00'

/-- The text with every doubled quote as one mark. -/
def markQuotes : List Char → List Char
  | '\'' :: '\'' :: cs => quoteMark :: markQuotes cs
  | c :: cs => c :: markQuotes cs
  | [] => []

def ofChar (c : Char) : DateItem :=
  .literal (if c = quoteMark then '\'' else c)

/-- The items of a text in which doubled quotes are marked. -/
def cut (cs : List Char) : List DateItem :=
  match cs with
  | [] => []
  | c :: tail =>
    if c = '\'' then
      match _h : Text.breakOn ['\''] tail with
      | some (quoted, rest) => quoted.map ofChar ++ cut rest
      | none => []
    else if isFieldLetter c then
      .field c ((tail.takeWhile (· == c)).length + 1) :: cut (tail.dropWhile (· == c))
    else ofChar c :: cut tail
termination_by cs.length
decreasing_by
  · have := Text.length_after_of_breakOn (List.cons_ne_nil _ _) ‹_›
    simp only [List.length_cons]
    omega
  · have := (List.dropWhile_suffix (l := tail) (· == c)).sublist.length_le
    simp only [List.length_cons]
    omega
  · simp

/-- The items of a pattern, if all of its fields have lengths that are allowed. -/
def read? (pattern : String) : Option (List DateItem) :=
  let items := cut (markQuotes pattern.toList)
  let fits : DateItem → Bool
    | .literal _ => true
    | .field letter length => isAllowed letter length
  if items.all fits then some items else none

end DateItem
end ReceiptTemplate
