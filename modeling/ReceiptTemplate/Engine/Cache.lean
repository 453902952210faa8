import ReceiptTemplate.Expr.Parser
import ReceiptTemplate.Entries
import ReceiptTemplate.Text.Quoted

/-!
# Expression cache — trees that are parsed once

The cache keeps the tree of every source that was parsed, under its exact text.  Bare paths are not kept,
and neither are sources that do not parse.  A cache with a bound is emptied before an entry that would
exceed it.  Each tree that is made gets a number of its own, so that a tree that is given out again can be
told from an equal one.
-/

namespace ReceiptTemplate

/-- A tree and the number under which it was made. -/
structure NumberedTree where
  tree : Expr
  number : Nat
deriving DecidableEq

structure ExprCache where
  /-- The most entries that are kept; zero sets no bound. -/
  bound : Nat
  limits : Expr.Limits
  entries : Entries NumberedTree
  /-- How many trees have been made. -/
  made : Nat

namespace ExprCache

def empty (bound : Nat) (limits : Expr.Limits) : ExprCache :=
  ⟨bound, limits, [], 0⟩

def size (c : ExprCache) : Nat :=
  c.entries.length

def contains (c : ExprCache) (source : String) : Bool :=
  (c.entries.get? source).isSome

def clear (c : ExprCache) : ExprCache :=
  { c with entries := [] }

/-- Whether the next new entry empties the cache first. -/
def isFull (c : ExprCache) : Bool :=
  c.bound != 0 && c.bound ≤ c.size

/-- Whether a source goes past the cache: it is a bare path and not too long. -/
def bypasses (c : ExprCache) (source : String) : Bool :=
  Expr.isSimplePath source && source.length ≤ c.limits.length

/-- The tree of an outcome of parsing, with the next number. -/
def make (c : ExprCache) (parsed : Except ParseError Expr) :
    Except ParseError NumberedTree × ExprCache :=
  match parsed with
  | .error e => (.error e, c)
  | .ok tree => (.ok ⟨tree, c.made⟩, { c with made := c.made + 1 })

/-- The cache with a new entry. -/
def store (source : String) (t : NumberedTree) (c : ExprCache) : ExprCache :=
  { c with entries := Entries.insert source t (if c.isFull then [] else c.entries) }

/-- The tree of a source, and the cache after it was asked for. -/
def parse (c : ExprCache) (source : String) : Except ParseError NumberedTree × ExprCache :=
  if c.bypasses source then c.make (Expr.parsePath source)
  else
    match c.entries.get? source with
    | some t => (.ok t, c)
    | none =>
      match c.make (Expr.parse c.limits source) with
      | (.error e, c) => (.error e, c)
      | (.ok t, c) => (.ok t, c.store source t)

/-- What is worth noting about a request: a new entry, and that the cache was full. -/
def notes (c : ExprCache) (source : String) : List String :=
  if c.bypasses source || c.contains source || !(Expr.parse c.limits source).isOk then []
  else
    s!"Parsed and cached expression {Text.quoted source}" ::
      (if c.isFull then [s!"Expression cache full ({c.size} entries), clearing"] else [])

end ExprCache
end ReceiptTemplate
