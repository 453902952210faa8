import ReceiptTemplate.Context.Basic
import ReceiptTemplate.Value.Lookup

/-!
# References — the value of a path in a context

`.` is the current scope and a path that starts with `@` a loop variable; every other path walks from
the current scope.  The empty path is null.
-/

namespace ReceiptTemplate
namespace Context

/-- The value of a loop variable; a name that is none of them is null. -/
def loopVariable (c : Context) (name : String) : Value :=
  if name = "@index" then
    match c.loopIndex with
    | some n => .number (.ofNat n)
    | none => .null
  else if name = "@first" then .bool c.isFirst
  else if name = "@last" then .bool c.isLast
  else if name = "@key" then
    match c.key with
    | some s => .text s
    | none => .null
  else .null

/-- The value of a path. -/
def resolve (c : Context) (path : String) : Except ParseError Value :=
  match path.toList with
  | [] => .ok .null
  | ['.'] => .ok c.current
  | '@' :: _ => .ok (c.loopVariable path)
  | _ => (Path.split path).map c.current.walk

end Context
end ReceiptTemplate
