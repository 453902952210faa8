import ReceiptTemplate.Value.ConstructorText

/-!
# Filter arguments — what is written after the name of a filter

There is at most one positional argument.  A named argument has a value or is a bare flag, which is
not the same as an empty value.
-/

namespace ReceiptTemplate

structure FilterArguments where
  positional : Option Value
  named : Entries (Option Value)

namespace FilterArguments

def none : FilterArguments := ⟨.none, []⟩

/-- Arguments written as texts; of equal names the last one counts. -/
def ofTexts (positional : Option String) (named : List (String × Option String)) :
    FilterArguments :=
  ⟨positional.map .text, Entries.ofList (named.map fun p => (p.1, p.2.map .text))⟩

/-- The value of a named argument; a flag has none. -/
def value? (args : FilterArguments) (name : String) : Option Value :=
  (args.named.get? name).join

/-- Whether a name was given without a value. -/
def hasFlag (args : FilterArguments) (name : String) : Bool :=
  match args.named.get? name with
  | some .none => true
  | _ => false

def constructorText (args : FilterArguments) : String :=
  Text.constructor "FilterArguments"
    [("positional", Text.optional (args.positional.map Value.constructorText)),
     ("named", Text.mapping (args.named.map fun p =>
       (Text.quoted p.1, Text.optional (p.2.map Value.constructorText))))]

end FilterArguments
end ReceiptTemplate
