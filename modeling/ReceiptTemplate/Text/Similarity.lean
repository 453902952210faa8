/-!
# Similarity — how much two texts have in common

The longest run of characters that both texts have is matched, and then the parts before it and the parts
after it in the same way.  Two texts are close if the matched characters make up three tenths or more of
the characters of both.
-/

namespace ReceiptTemplate
namespace Text

/-- How many characters two texts have in common at their starts. -/
def commonStart : List Char → List Char → Nat
  | a :: as, b :: bs => if a = b then commonStart as bs + 1 else 0
  | _, _ => 0

/-- A run that two texts share: where it starts in each, and its length. -/
structure SharedRun where
  left : Nat
  right : Nat
  length : Nat

/-- The longest shared run; of several the leftmost. -/
def longestRun (as bs : List Char) : SharedRun :=
  (List.range as.length).foldl
    (fun best i => (List.range bs.length).foldl
      (fun best j =>
        let n := commonStart (as.drop i) (bs.drop j)
        if best.length < n then ⟨i, j, n⟩ else best) best) ⟨0, 0, 0⟩

/-- How many characters are matched in at most `fuel` runs nested in each other. -/
def matchedWithin : Nat → List Char → List Char → Nat
  | 0, _, _ => 0
  | fuel + 1, as, bs =>
    let run := longestRun as bs
    if run.length = 0 then 0
    else
      matchedWithin fuel (as.take run.left) (bs.take run.right) + run.length +
        matchedWithin fuel (as.drop (run.left + run.length)) (bs.drop (run.right + run.length))

/-- How many characters of two texts are matched. -/
def matched (a b : String) : Nat :=
  matchedWithin (a.length + 1) a.toList b.toList

/-- Whether two texts are close. -/
def isClose (a b : String) : Bool :=
  3 * (a.length + b.length) ≤ 10 * matched a b

/-- At most three of the candidates that are close to a word, the best ones, in alphabetical order. -/
def closeTo (word : String) (candidates : List String) : List String :=
  let atLeast (a b : String) : Bool :=
    let x := matched a word * (b.length + word.length)
    let y := matched b word * (a.length + word.length)
    if x = y then decide (b ≤ a) else decide (y ≤ x)
  let best := ((candidates.filter (isClose · word)).mergeSort atLeast).take 3
  best.mergeSort fun a b => decide (a ≤ b)

end Text
end ReceiptTemplate
