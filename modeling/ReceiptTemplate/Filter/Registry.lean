import ReceiptTemplate.Filter.Basic
import ReceiptTemplate.JsonTree

/-!
# Filter registry — the filters that expressions can name

Names are looked up whatever their case.  Registering a name again replaces the filter and keeps its
place in the list.
-/

namespace ReceiptTemplate

/-- Filters by folded name, in the order of first registration. -/
structure FilterRegistry where
  entries : Entries Filter

namespace FilterRegistry

def empty : FilterRegistry := ⟨[]⟩

def register (f : Filter) (r : FilterRegistry) : FilterRegistry :=
  ⟨Entries.insert (Text.fold f.name) f r.entries⟩

def ofFilters (filters : List Filter) : FilterRegistry :=
  filters.foldl (fun r f => r.register f) empty

def find? (r : FilterRegistry) (name : String) : Option Filter :=
  r.entries.get? (Text.fold name)

def isRegistered (r : FilterRegistry) (name : String) : Bool :=
  (r.find? name).isSome

/-- Registering changes what the folded name of the filter finds and nothing else. -/
theorem find?_register (f : Filter) (r : FilterRegistry) (name : String) :
    (r.register f).find? name =
      if Text.fold f.name = Text.fold name then some f else r.find? name :=
  Entries.get?_insert ..

def filters (r : FilterRegistry) : List Filter :=
  r.entries.map (·.2)

def size (r : FilterRegistry) : Nat :=
  r.entries.length

/-! ## Documentation -/

/-- The documentation of a filter; one without metadata has a name only. -/
def filterDocs (f : Filter) : JsonTree :=
  .object
    [("name", .text f.name),
     ("description", .text ((f.docs.map (·.description)).getD "")),
     ("category", (f.docs.map fun d => .text d.category.name).getD .null),
     ("examples", .array ((f.docs.map fun d => d.examples.map .text).getD []))]

/-- The names of the filters of each category, in the order in which the categories first occur. -/
def byCategory (r : FilterRegistry) : Entries (List String) :=
  r.filters.foldl
    (fun acc f =>
      match f.docs with
      | some d => acc.insert d.category.name (((acc.get? d.category.name).getD []) ++ [f.name])
      | none => acc) []

/-- The documentation of all filters by name, and their names by category. -/
def documentation (r : FilterRegistry) : JsonTree :=
  .object
    [("filters", .object (Entries.ofList (r.filters.map fun f => (f.name, filterDocs f)))),
     ("byCategory", .object (r.byCategory.map fun p => (p.1, .array (p.2.map .text))))]

end FilterRegistry
end ReceiptTemplate
