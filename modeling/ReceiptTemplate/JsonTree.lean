import ReceiptTemplate.Text.Quoted

/-!
# JSON trees — terms of the interchange format and their text

A tree is written on one line, or with a line for each item and two more blanks for each level.
Characters beyond ASCII stand as they are; quotes, backslashes and control characters are escaped.
-/

namespace ReceiptTemplate

inductive JsonTree where
  | null
  | bool (b : Bool)
  | text (s : String)
  | array (items : List JsonTree)
  | object (entries : List (String × JsonTree))

namespace JsonTree

/-! ## Texts -/

def escape (c : Char) : List Char :=
  if c = '"' then ['\\', '"']
  else if c = '\\' then ['\\', '\\']
  else if c = '\n' then ['\\', 'n']
  else if c = '\r' then ['\\', 'r']
  else if c = '\t' then ['\\', 't']
  else if c.toNat = 8 then ['\\', 'b']
  else if c.toNat = 12 then ['\\', 'f']
  else if c.toNat < 32 then '\\' :: 'u' :: Text.hexDigits 4 c.toNat
  else [c]

/-- A text in double quotes. -/
def quoted (s : String) : String :=
  String.ofList ('"' :: s.toList.flatMap escape ++ ['"'])

/-! ## One line -/

mutual

def compact : JsonTree → String
  | .null => "null"
  | .bool b => if b then "true" else "false"
  | .text s => quoted s
  | .array items => "[" ++ String.intercalate ", " (compactItems items) ++ "]"
  | .object entries => "\x7b" ++ String.intercalate ", " (compactEntries entries) ++ "\x7d"

def compactItems : List JsonTree → List String
  | [] => []
  | t :: ts => compact t :: compactItems ts

def compactEntries : List (String × JsonTree) → List String
  | [] => []
  | (k, t) :: rest => (quoted k ++ ": " ++ compact t) :: compactEntries rest

end

/-! ## One line for each item -/

/-- A line break and the blanks of a level. -/
def lineBreak (level : Nat) : String :=
  String.ofList ('\n' :: List.replicate (2 * level) ' ')

/-- Items on lines of their own between two brackets; without items nothing stands between. -/
def block (level : Nat) (opening closing : String) (items : List String) : String :=
  if items.isEmpty then opening ++ closing
  else
    opening ++ lineBreak (level + 1) ++
      String.intercalate ("," ++ lineBreak (level + 1)) items ++ lineBreak level ++ closing

mutual

def indented (level : Nat) : JsonTree → String
  | .null => "null"
  | .bool b => if b then "true" else "false"
  | .text s => quoted s
  | .array items => block level "[" "]" (indentedItems (level + 1) items)
  | .object entries => block level "\x7b" "\x7d" (indentedEntries (level + 1) entries)

def indentedItems (level : Nat) : List JsonTree → List String
  | [] => []
  | t :: ts => indented level t :: indentedItems level ts

def indentedEntries (level : Nat) : List (String × JsonTree) → List String
  | [] => []
  | (k, t) :: rest => (quoted k ++ ": " ++ indented level t) :: indentedEntries level rest

end

end JsonTree
end ReceiptTemplate
