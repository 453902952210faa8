import ReceiptTemplate.Expr.ParseError

/-!
# Paths — the segments of a variable reference

A path names properties and array elements: `user.name`, `items[0].price`.  `splitPath` cuts its text
into names and indexes; what fits neither form is skipped.  Paths and indexes have upper limits.
-/

namespace ReceiptTemplate

open Unicode (isDecimalDigit)
open Text (readDigits)

/-- A step of a path. -/
inductive Segment where
  | name (s : String)
  | index (n : Nat)
deriving DecidableEq

namespace Path

def maxLength : Nat := 1000

def maxIndex : Nat := 10000

/-- Whether a character belongs to a name inside a path. -/
def isNameChar (c : Char) : Bool :=
  c != '.' && c != '['

/-- A run of digits closed by a bracket, and what follows. -/
def readIndex? (cs : List Char) : Option (Nat × List Char) :=
  match cs.takeWhile isDecimalDigit, cs.dropWhile isDecimalDigit with
  | d :: ds, ']' :: rest => some (readDigits (d :: ds), rest)
  | _, _ => none

/-- A nonempty run of name characters, and what follows. -/
def readName? (cs : List Char) : Option (String × List Char) :=
  match cs.takeWhile isNameChar with
  | [] => none
  | c :: name => some (String.ofList (c :: name), cs.dropWhile isNameChar)

/-- The segment at the head of the characters, and what follows. -/
def readSegment? : List Char → Option (Segment × List Char)
  | [] => none
  | '[' :: cs => (readIndex? cs).map fun p => (.index p.1, p.2)
  | '.' :: cs => (readName? cs).map fun p => (.name p.1, p.2)
  | cs => (readName? cs).map fun p => (.name p.1, p.2)

/-! ## Each segment takes characters away -/

theorem length_dropWhile_le (p : Char → Bool) (cs : List Char) :
    (cs.dropWhile p).length ≤ cs.length :=
  (List.dropWhile_suffix p).sublist.length_le

theorem length_of_readIndex? {cs rest : List Char} {n : Nat} (h : readIndex? cs = some (n, rest)) :
    rest.length < cs.length := by
  unfold readIndex? at h
  split at h
  · next hd =>
    have := length_dropWhile_le isDecimalDigit cs
    rw [hd] at this
    simp only [Option.some.injEq, Prod.mk.injEq] at h
    rw [← h.2]
    simp only [List.length_cons] at this
    omega
  · exact absurd h (by simp)

theorem length_of_readName? {cs rest : List Char} {s : String} (h : readName? cs = some (s, rest)) :
    rest.length < cs.length := by
  unfold readName? at h
  split at h
  · exact absurd h (by simp)
  · next c name ht =>
    simp only [Option.some.injEq, Prod.mk.injEq] at h
    have := congrArg List.length (List.takeWhile_append_dropWhile (p := isNameChar) (l := cs))
    rw [ht] at this
    rw [← h.2]
    simp only [List.cons_append, List.length_cons, List.length_append] at this
    omega

theorem length_of_readSegment? {cs rest : List Char} {s : Segment}
    (h : readSegment? cs = some (s, rest)) : rest.length < cs.length := by
  unfold readSegment? at h
  split at h
  · exact absurd h (by simp)
  all_goals
    obtain ⟨p, hp, hq⟩ := Option.map_eq_some_iff.1 h
    cases hq
    first
    | exact Nat.lt_succ_of_lt (length_of_readIndex? hp)
    | exact Nat.lt_succ_of_lt (length_of_readName? hp)
    | exact length_of_readName? hp

/-! ## Splitting -/

/-- The segments of a text of any length; an index over the limit is reported with the characters
left at its bracket. -/
def splitFrom (cs : List Char) : Except Fault (List Segment) :=
  match cs with
  | [] => .ok []
  | c :: tail =>
    match _h : readSegment? (c :: tail) with
    | none => splitFrom tail
    | some (.name s, rest) => (splitFrom rest).map (.name s :: ·)
    | some (.index n, rest) =>
      if maxIndex < n then .error (.at (.indexTooLarge n maxIndex) (c :: tail))
      else (splitFrom rest).map (.index n :: ·)
termination_by cs.length
decreasing_by
  · simp
  · exact length_of_readSegment? ‹_›
  · exact length_of_readSegment? ‹_›

/-- The segments of a path. -/
def split (path : String) : Except ParseError (List Segment) :=
  let cs := path.toList
  if maxLength < cs.length then
    .error ⟨.pathTooLong cs.length maxLength, none, String.ofList (cs.take 100)⟩
  else (splitFrom cs).mapError (Fault.toError cs)

end Path
end ReceiptTemplate
