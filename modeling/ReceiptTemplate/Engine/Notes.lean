import ReceiptTemplate.Engine.Basic

/-!
# Notes — what an engine remarks while it works

An engine remarks that it was made, that its cache took in a tree, and what filters passed over.  The
functions here list the notes of a request in the order in which they arise; what arises after a failure
is not reached.
-/

namespace ReceiptTemplate

/-- The part of the library that a note is about. -/
inductive NoteTopic where
  | engine | cache | filters
deriving DecidableEq

/-- The name of a topic in a log. -/
def NoteTopic.name : NoteTopic → String
  | .engine => "printforge.templating.engine"
  | .cache => "printforge.templating.expressions.cache"
  | .filters => "printforge.templating.filters.builtins"

structure Note where
  topic : NoteTopic
  text : String

namespace Engine

/-- The note on a new engine. -/
def creationNote (e : Engine) : Note :=
  ⟨.engine, s!"Template engine created (locale={e.locale.text}, {e.filters.size} filters)"⟩

/-- The notes on asking for the tree of a source. -/
def parseNotes (e : Engine) (source : String) : List Note :=
  (e.cache.notes source).map fun text => ⟨.cache, text⟩

/-- The notes on evaluating a source. -/
def evaluateNotes (e : Engine) (source : String) (data : RenderData) : List Note :=
  e.parseNotes source ++
    (match (e.cache.parse source).1, data.toContext with
    | .ok t, .ok c => (t.tree.notes ⟨c, e.filters, e.locale⟩).map fun text => ⟨.filters, text⟩
    | _, _ => [])

/-- The notes on the pieces of a template. -/
def pieceNotes (data : RenderData) : List Piece → Engine → List Note
  | [], _ => []
  | .literal _ :: pieces, e => pieceNotes data pieces e
  | .expression source :: pieces, e =>
    e.evaluateNotes source data ++
      (match e.evaluate source data none with
      | (.ok _, e) => pieceNotes data pieces e
      | (.error _, _) => [])

/-- The notes on rendering a template. -/
def renderNotes (e : Engine) (raw : String) (data : RenderData) : List Note :=
  match data.toContext with
  | .error _ => []
  | .ok c => pieceNotes (.context c) (Template.cut raw.toList).1 e

end Engine
end ReceiptTemplate
