import ReceiptTemplate.Entries
import ReceiptTemplate.Text.Basic

/-!
# Files — what the paths in arguments name

The command line sees files as a list of paths in their simplest form, each with what it names.  A path
that ends in a slash names a directory or nothing.
-/

namespace ReceiptTemplate
namespace CommandLine

/-- What a path names. -/
inductive FileEntry where
  | text (content : String)
  | directory
deriving DecidableEq

namespace Path

/-- The parts of a path that move it. -/
def parts (path : String) : List (List Char) :=
  (Text.splitChars '/' path.toList).filter fun part => !(part.isEmpty || part == ['.'])

def isAbsolute (path : String) : Bool :=
  path.toList.head? == some '/'

/-- The path in its simplest form. -/
def simplest (path : String) : String :=
  let joined := String.intercalate "/" ((parts path).map String.ofList)
  if isAbsolute path then "/" ++ joined else if joined = "" then "." else joined

/-- Whether a path can name nothing but a directory. -/
def wantsDirectory (path : String) : Bool :=
  match (Text.splitChars '/' path.toList).getLast? with
  | some last => last.isEmpty || last == ['.']
  | none => false

/-- Whether a path leads from a directory to itself or upwards. -/
def leadsUp (path : String) : Bool :=
  (parts path).all (· == ['.', '.'])

end Path

/-- What a path names among files. -/
def lookUp? (files : Entries FileEntry) (path : String) : Option FileEntry :=
  if path = "" then none
  else if Path.leadsUp path then some .directory
  else
    match files.get? (Path.simplest path) with
    | some (.text content) => if Path.wantsDirectory path then none else some (.text content)
    | some .directory => some .directory
    | none =>
      let inside := (Path.simplest path ++ "/").toList
      if files.any fun f => inside.isPrefixOf f.1.toList then some .directory else none

end CommandLine
end ReceiptTemplate
