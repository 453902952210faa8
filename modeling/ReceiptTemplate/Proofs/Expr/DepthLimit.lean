import Mathlib.Logic.Function.Iterate
import Mathlib.Tactic.Ring
import ReceiptTemplate.Proofs.Expr.Built
import ReceiptTemplate.Proofs.Expr.ReadBack

/-!
# Depth limit — how tall a parsed tree can be

Levels are given back when an operand is complete.  Inside one operand the indexes of its first
target and the operators after it each draw on all the levels that the operand was entered with, and
the target may be a group as tall as the levels inside allow.  A tree may therefore be taller than
the depth limit: with `depth` levels it has up to `depth * (depth - 1) + 1` nodes on a branch, and
some tree has that many.
-/

namespace ReceiptTemplate
namespace Expr

/-! ## Upper bound -/

/-- The height that an operand with a number of levels can reach: each further level adds one step
and one operator for each level below it. -/
def tallest : Nat → Nat
  | 0 => 1
  | n + 1 => tallest n + 2 * n

theorem tallest_eq (depth : Nat) : tallest depth = depth * (depth - 1) + 1 := by
  induction depth with
  | zero => rfl
  | succ n ih =>
    rw [tallest, ih]
    cases n with
    | zero => rfl
    | succ n =>
      simp only [Nat.add_sub_cancel]
      ring

theorem tallest_mono {m n : Nat} (h : m ≤ n) : tallest m ≤ tallest n := by
  induction h with
  | refl => exact Nat.le_refl _
  | step _ ih => exact Nat.le_trans ih (Nat.le_add_right _ _)

theorem tallest_pos (n : Nat) : 0 < tallest n :=
  tallest_mono (Nat.zero_le n)

theorem height_pos (e : Expr) : 0 < e.height := by
  cases e <;> simp [height]

theorem height_member (target : Expr) (s : Segment) :
    (member target s).height = target.height + 1 := by
  have := target.height_pos
  cases s <;> simp only [member, height] <;> omega

theorem height_apply_le (op : Infix) (l r : Expr) :
    (op.apply l r).height ≤ max l.height r.height + 1 := by
  cases op <;> simp only [Infix.apply, height] <;> omega

theorem height_leaf {token : Token} {e : Expr} (h : leaf? token = some e) : e.height = 1 := by
  unfold leaf? at h
  split at h <;> cases h <;> rfl

theorem Built.levels_le {stage : Stage} {n k : Nat} {e : Expr} (h : Built stage n k e) : k ≤ n := by
  induction h <;> omega

/-- The height that a tree at some stage has reached at most. -/
def Stage.heightBound (n k : Nat) : Stage → Nat
  | .target => tallest n + (n - k)
  | .chain => tallest n + n + (n - k)

theorem Built.height_le {stage : Stage} {n k : Nat} {e : Expr} (h : Built stage n k e) :
    e.height ≤ stage.heightBound n k := by
  -- A complete operand stays below what one more level allows.
  have hoperand {m j : Nat} {key : Expr} (hle : key.height ≤ Stage.chain.heightBound m j) :
      key.height ≤ tallest (m + 1) := by
    simp only [Stage.heightBound] at hle
    rw [tallest]
    omega
  induction h with
  | path hs h => exact Nat.le_trans (tallest_pos _) (Nat.le_add_right _ _)
  | @leaf n e token h =>
    have hpos := tallest_pos n
    rw [height_leaf h]
    simp only [Stage.heightBound]
    omega
  | group h ih => exact Nat.le_trans (hoperand ih) (Nat.le_add_right _ _)
  | @index n m k target key ht hkey iht ihkey =>
    have hm := ht.levels_le
    -- The key is entered below the target, and its own height counts from there.
    have hkeyHeight : key.height ≤ tallest n :=
      Nat.le_trans (hoperand ihkey) (tallest_mono (Nat.le_trans (Nat.le_succ _) hm))
    simp only [Stage.heightBound, height] at iht ⊢
    omega
  | @member n k target s ht ih =>
    have hk := ht.levels_le
    rw [height_member]
    simp only [Stage.heightBound] at ih ⊢
    omega
  | negate h ih =>
    have hle := hoperand ih
    simp only [Stage.heightBound, height]
    omega
  | not h ih =>
    have hle := hoperand ih
    simp only [Stage.heightBound, height]
    omega
  | indexed h ih =>
    have hk := h.levels_le
    simp only [Stage.heightBound] at ih ⊢
    omega
  | @filter n k e call h ih =>
    have hk := h.levels_le
    simp only [Stage.heightBound, height] at ih ⊢
    omega
  | @operator n m k l r op hl hr ihl ihr =>
    have hm := hl.levels_le
    have hright : r.height ≤ tallest n :=
      Nat.le_trans (hoperand ihr) (tallest_mono (Nat.le_trans (Nat.le_succ _) hm))
    have happly := height_apply_le op l r
    simp only [Stage.heightBound] at ihl ⊢
    omega

theorem height_le_tallest {limits : Limits} {source : String} {e : Expr}
    (h : parse limits source = .ok e) : e.height ≤ tallest limits.depth := by
  rcases built_of_parse h with ⟨n, k, hdepth, hbuilt⟩
  have hheight := hbuilt.height_le
  simp only [Stage.heightBound] at hheight
  rw [hdepth, tallest]
  omega

/-! ## Trees of that height -/

def addMember (e : Expr) : Expr :=
  .index e (.text "b") true

def addFilter (e : Expr) : Expr :=
  .filter ⟨"f", none, []⟩ e

/-- A tree that spends every level of `n + 1` on members and on filters, in each group again. -/
def tower : Nat → Expr
  | 0 => .path "a"
  | n + 1 => addFilter^[n + 1] (addMember^[n + 1] (tower n))

theorem height_iterate {f : Expr → Expr} (hf : ∀ e, (f e).height = e.height + 1) (n : Nat)
    (e : Expr) : (f^[n] e).height = e.height + n := by
  induction n with
  | zero => rfl
  | succ n ih =>
    rw [Function.iterate_succ_apply', hf, ih]
    omega

theorem height_tower (n : Nat) : (tower n).height = tallest (n + 1) := by
  induction n with
  | zero => rfl
  | succ n ih =>
    have hmember : ∀ e, (addMember e).height = e.height + 1 := fun e => height_member e (.name "b")
    have hfilter : ∀ e, (addFilter e).height = e.height + 1 := fun e => rfl
    have htallest : tallest (n + 1 + 1) = tallest (n + 1) + 2 * (n + 1) := rfl
    rw [tower, height_iterate hfilter, height_iterate hmember, ih, htallest]
    omega

theorem printable_iterate {f : Expr → Expr} (hf : ∀ e, e.Printable → (f e).Printable) (n : Nat)
    {e : Expr} (h : e.Printable) : (f^[n] e).Printable := by
  induction n with
  | zero => exact h
  | succ n ih =>
    rw [Function.iterate_succ_apply']
    exact hf _ ih

theorem printable_tower (n : Nat) : (tower n).Printable := by
  induction n with
  | zero =>
    refine .inr ⟨⟨['a'], by decide, []⟩, by simp [PathText.text, PathText.chars],
      ⟨by simp [PathText.chars, Path.maxLength], by simp⟩, by simp [IsKeyword]⟩
  | succ n ih =>
    have hmember (e : Expr) (h : e.Printable) : (addMember e).Printable :=
      ⟨h, "b", rfl, by decide, by decide, by simp [IsKeyword]⟩
    have hfilter (e : Expr) (h : e.Printable) : (addFilter e).Printable :=
      ⟨⟨by decide, by decide⟩, h⟩
    exact printable_iterate hfilter _ (printable_iterate hmember _ ih)

/-- Members on a target without steps of its own take one level each. -/
theorem levels_members {e : Expr} (hsteps : e.steps = 0) {depth : Nat} (hlevels : e.levels < depth)
    (n : Nat) (hn : n < depth) :
    (addMember^[n] e).bare (Precedence.unary.rank + 1) (addMember^[n] e).steps 0 = n ∧
      (addMember^[n] e).bare (Precedence.unary.rank + 1) (addMember^[n] e).levels
        ((addMember^[n] e).levels + 1) ≤ depth := by
  induction n with
  | zero =>
    refine ⟨by simp [bare, hsteps], ?_⟩
    show e.bare _ e.levels (e.levels + 1) ≤ depth
    exact bare_le (Nat.le_of_lt hlevels) hlevels
  | succ n ih =>
    rcases ih (by omega) with ⟨hsteps, hlevels⟩
    rw [Function.iterate_succ_apply']
    have hrank : Precedence.unary.rank + 1 ≤ (addMember (addMember^[n] e)).rank := Nat.le_refl _
    simp only [bare, if_pos hrank]
    constructor
    · simp only [addMember, steps] at hsteps ⊢
      rw [hsteps]
    · simp only [addMember, levels, if_true] at hsteps hlevels ⊢
      rw [hsteps]
      omega

theorem levels_filters {e : Expr} {depth : Nat} (hlevels : e.levels ≤ depth) (n : Nat)
    (hn : e.folds + n < depth) :
    (addFilter^[n] e).folds = e.folds + n ∧ (addFilter^[n] e).levels ≤ depth := by
  induction n with
  | zero => exact ⟨rfl, hlevels⟩
  | succ n ih =>
    rcases ih (by omega) with ⟨hfolds, hle⟩
    rw [Function.iterate_succ_apply']
    constructor
    · simp only [addFilter, folds] at hfolds ⊢
      omega
    · simp only [addFilter, levels] at hfolds hle ⊢
      omega

theorem levels_tower (n : Nat) : (tower n).levels ≤ n + 1 ∧ (tower n).steps = 0 := by
  induction n with
  | zero => exact ⟨Nat.le_refl _, rfl⟩
  | succ n ih =>
    rcases ih with ⟨hlevels, hsteps⟩
    -- The members are added to the tower below as a group, and the filters to all of that.
    have hmembers := levels_members hsteps (Nat.lt_succ_of_le hlevels) (n + 1) (Nat.lt_succ_self _)
    have hrank : Precedence.unary.rank + 1 ≤ (addMember^[n + 1] (tower n)).rank := by
      rw [Function.iterate_succ_apply']
      exact Nat.le_refl _
    have hfolds : (addMember^[n + 1] (tower n)).folds = 0 := by
      rw [Function.iterate_succ_apply']
      rfl
    have hbare := hmembers.2
    rw [bare, if_pos hrank] at hbare
    constructor
    · rw [tower]
      exact (levels_filters hbare (n + 1) (by omega)).2
    · rw [tower, Function.iterate_succ_apply']
      rfl

/-! ## The limit -/

/-- What the depth limit says about heights.  A parsed tree has at most `depth * (depth - 1) + 1`
nodes on a branch, a tree of that height is parsed, and so the limit itself bounds the height of
every tree for limits of at most one only. -/
theorem height_of_parse (depth : Nat) :
    (∀ length source e, parse ⟨length, depth⟩ source = .ok e →
      e.height ≤ depth * (depth - 1) + 1) ∧
    (0 < depth → ∃ length source e, parse ⟨length, depth⟩ source = .ok e ∧
      e.height = depth * (depth - 1) + 1) ∧
    ((∀ length source e, parse ⟨length, depth⟩ source = .ok e → e.height ≤ depth) ↔ depth ≤ 1) := by
  have hbound (length : Nat) (source : String) (e : Expr)
      (h : parse ⟨length, depth⟩ source = .ok e) : e.height ≤ depth * (depth - 1) + 1 := by
    rw [← tallest_eq]
    exact height_le_tallest h
  have htall (hpos : 0 < depth) : ∃ length source e, parse ⟨length, depth⟩ source = .ok e ∧
      e.height = depth * (depth - 1) + 1 := by
    obtain ⟨n, rfl⟩ : ∃ n, depth = n + 1 := ⟨depth - 1, by omega⟩
    refine ⟨(tower n).written.length, (tower n).written, tower n, ?_, ?_⟩
    · exact parse_of_parseChars (Nat.le_refl _)
        (parseChars_written (printable_tower n) (levels_tower n).1)
    · rw [height_tower, tallest_eq]
  refine ⟨hbound, htall, ?_, ?_⟩
  · -- From two levels on the tallest tree is taller than the limit.
    intro hdepth
    by_contra hlt
    rcases htall (by omega) with ⟨length, source, e, hparse, hheight⟩
    have hle := hdepth length source e hparse
    obtain ⟨n, rfl⟩ : ∃ n, depth = n + 2 := ⟨depth - 2, by omega⟩
    have hsquare : (n + 2) * 1 ≤ (n + 2) * (n + 2 - 1) := Nat.mul_le_mul_left _ (by omega)
    omega
  · -- Without a level nothing is parsed, and one level holds a leaf.
    intro hdepth length source e h
    have hle := hbound length source e h
    rcases built_of_parse h with ⟨n, k, hn, -⟩
    have hone : depth = 1 := by
      dsimp only at hn
      omega
    subst hone
    exact hle

end Expr
end ReceiptTemplate
