import ReceiptTemplate.Text.Quoted

/-!
# Constructor text — the notation that names every part of a term

Trees and values are shown as `Name(field=part, ...)`.  The parts are other terms, quoted texts, truth
values, tuples in round brackets and mappings in braces; an absent part is `None`.  A tuple of one
item keeps a comma.
-/

namespace ReceiptTemplate
namespace Text

/-- The texts with commas between them. -/
def commaList (items : List String) : String :=
  String.intercalate ", " items

/-- A constructor and its named parts. -/
def constructor (name : String) (fields : List (String × String)) : String :=
  name ++ "(" ++ commaList (fields.map fun f => f.1 ++ "=" ++ f.2) ++ ")"

def tuple : List String → String
  | [item] => "(" ++ item ++ ",)"
  | items => "(" ++ commaList items ++ ")"

def mapping (entries : List (String × String)) : String :=
  "\x7b" ++ commaList (entries.map fun e => e.1 ++ ": " ++ e.2) ++ "\x7d"

def truth (b : Bool) : String :=
  if b then "True" else "False"

/-- A part that may be absent. -/
def optional : Option String → String
  | some s => s
  | none => "None"

end Text
end ReceiptTemplate
