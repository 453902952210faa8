import ReceiptTemplate.Unicode.CaseMap
import ReceiptTemplate.Unicode.CaseContext

/-!
# Case of a text — upper case, lower case and caseless comparison

Upper case and folding map each character on its own.  Lower case looks at the neighbours of a
capital sigma: at the end of a word it becomes the final small sigma.
-/

namespace ReceiptTemplate
namespace Text

open Unicode (upperForm lowerForm foldForm isCased isCaseIgnorable)

def upper (s : String) : String :=
  String.ofList (s.toList.flatMap upperForm)

/-- The form under which two texts that differ by case only are equal. -/
def fold (s : String) : String :=
  String.ofList (s.toList.flatMap foldForm)

/-- Whether a sigma ends a word, given the characters before it, nearest first, and after it. -/
def endsWord (before after : List Char) : Bool :=
  match before.dropWhile isCaseIgnorable with
  | [] => false
  | b :: _ =>
    isCased b &&
      match after.dropWhile isCaseIgnorable with
      | [] => true
      | a :: _ => !isCased a

/-- The small form of the characters that follow those of `before`, nearest first. -/
def lowerChars (before : List Char) : List Char → List Char
  | [] => []
  | c :: cs =>
    (if c = 'Σ' then [if endsWord before cs then 'ς' else 'σ'] else lowerForm c)
      ++ lowerChars (c :: before) cs

def lower (s : String) : String :=
  String.ofList (lowerChars [] s.toList)

/-- The first letter as a capital and the others small, for texts of ASCII letters. -/
def capitalize (s : String) : String :=
  match s.toList with
  | [] => ""
  | c :: cs => String.ofList (c.toUpper :: cs.map Char.toLower)

end Text
end ReceiptTemplate
