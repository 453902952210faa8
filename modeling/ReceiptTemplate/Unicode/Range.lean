/-!
# Code point ranges — membership in a sorted list of closed ranges

The property tables of this folder list the code points of a class as closed ranges.  `inRanges`
decides membership; the tables carry no other structure.
-/

namespace ReceiptTemplate
namespace Unicode

/-- A closed range of code points. -/
abbrev Range := Nat × Nat

/-- Whether the code point `n` lies in one of the ranges. -/
def inRanges (ranges : List Range) (n : Nat) : Bool :=
  ranges.any fun r => r.1 ≤ n && n ≤ r.2

theorem inRanges_iff (ranges : List Range) (n : Nat) :
    inRanges ranges n = true ↔ ∃ r ∈ ranges, r.1 ≤ n ∧ n ≤ r.2 := by
  simp [inRanges]

end Unicode
end ReceiptTemplate
