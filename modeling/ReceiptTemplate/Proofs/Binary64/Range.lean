import ReceiptTemplate.Binary64.Text
import ReceiptTemplate.Proofs.Decimal.Value

/-!
# Range of doubles — which decimals stay finite

Rounding a fraction gives a mantissa and an exponent in the ranges of doubles, or an infinity.  A fraction
whose numerator has far fewer bits than the largest double has a finite double next to it.  So has every
decimal with a coefficient of moderate length and no power of ten above it.
-/

namespace ReceiptTemplate
namespace Binary64

theorem binade_le {n k : Nat} (hn : n < 2 ^ k) (d : Nat) : binade n d ≤ k := by
  have hlog : Nat.log2 n ≤ k := by
    by_cases hzero : n = 0
    · rw [hzero, Nat.log2_zero]
      exact Nat.zero_le k
    · exact Nat.le_of_lt ((Nat.log2_lt hzero).2 hn)
  unfold binade
  dsimp only
  split <;> omega

theorem isFinite_ofRatio {n k : Nat} (hn : n < 2 ^ k) (hk : k ≤ 1000) (negative : Bool) (d : Nat) :
    (ofRatio negative n d).isFinite = true := by
  have hbinade := binade_le hn d
  have hmax : maxExponent = 971 := rfl
  have hmin : minExponent = -1074 := rfl
  have hprecision : precision = 53 := rfl
  unfold ofRatio
  split
  · rfl
  · dsimp only
    -- A carry into another bit raises the exponent by one.
    split
    · rw [if_neg (by omega)]
      rfl
    · rw [if_neg (by omega)]
      rfl

/-- A decimal of up to fifty digits without a power of ten stays finite. -/
theorem isFinite_ofDecimal {d : Decimal} (hexp : d.exponent ≤ 0)
    (hshort : Decimal.digitCount d.coefficient ≤ 50) : (ofDecimal d).isFinite = true := by
  have hadjusted : ¬400 < d.adjusted := by
    simp only [Decimal.adjusted]
    omega
  unfold ofDecimal
  rw [if_neg hadjusted]
  split
  · rfl
  · split
    · rfl
    · have hpower : d.coefficient * Nat.pow 10 d.exponent.toNat = d.coefficient := by
        have hzero : d.exponent.toNat = 0 := by omega
        rw [hzero]
        exact Nat.mul_one _
      have hlt : d.coefficient < 2 ^ (4 * 50) := by
        calc d.coefficient < 10 ^ 50 := (Decimal.digitCount_le_iff (by decide)).1 hshort
          _ ≤ (2 ^ 4) ^ 50 := Nat.pow_le_pow_left (by decide) 50
          _ = 2 ^ (4 * 50) := (Nat.pow_mul 2 4 50).symm
      rw [hpower]
      exact isFinite_ofRatio hlt (by decide) _ _

/-! ## Ranges -/

/-- A mantissa that fits its bits and an exponent between the least and the largest one. -/
def InRange : Binary64 → Prop
  | .finite _ mantissa exponent =>
    mantissa < 2 ^ precision ∧ minExponent ≤ exponent ∧ exponent ≤ maxExponent
  | _ => True

theorem inRange_zero (negative : Bool) : InRange (.finite negative 0 0) := by
  refine ⟨?_, ?_, ?_⟩ <;> decide

/-- A fraction is below the power of two above its binade. -/
theorem lt_two_zpow_binade (n : Nat) {d : Nat} (hd : d ≠ 0) :
    (n : ℚ) < d * 2 ^ (binade n d + 1) := by
  let k : Int := (Nat.log2 n : Int) - Nat.log2 d
  have htwo : (2 : ℚ) ≠ 0 := by norm_num
  have hpow : (2 : ℚ) ^ (-k).toNat * 2 ^ k = 2 ^ k.toNat := by
    rw [← zpow_natCast, ← zpow_natCast, ← zpow_add₀ htwo]
    congr 1
    omega
  by_cases hbelow : n * Nat.pow 2 (-k).toNat < d * Nat.pow 2 k.toNat
  · have hbinade : binade n d + 1 = k := by
      unfold binade
      dsimp only
      rw [if_pos (decide_eq_true hbelow)]
      omega
    have hcast : (n : ℚ) * 2 ^ (-k).toNat < d * 2 ^ k.toNat := by exact_mod_cast hbelow
    rw [hbinade]
    rw [← hpow, mul_left_comm, mul_comm] at hcast
    exact lt_of_mul_lt_mul_left hcast (by positivity)
  · have hbinade : binade n d + 1 = k + 1 := by
      unfold binade
      dsimp only
      rw [if_neg (mt of_decide_eq_true hbelow)]
    have hupper : (n : ℚ) < 2 ^ (Nat.log2 n + 1) := by exact_mod_cast Nat.lt_log2_self
    have hlower : (2 : ℚ) ^ Nat.log2 d ≤ d := by exact_mod_cast Nat.log2_self_le hd
    calc (n : ℚ) < 2 ^ (Nat.log2 n + 1) := hupper
      _ = 2 ^ Nat.log2 d * 2 ^ (k + 1) := by
        rw [← zpow_natCast, ← zpow_natCast, ← zpow_add₀ htwo]
        congr 1
        push_cast
        omega
      _ ≤ d * 2 ^ (binade n d + 1) := by
        rw [hbinade]
        gcongr

/-- At the place of the last bit a fraction has no more bits than a mantissa. -/
theorem div_lt_two_pow_precision {n d : Nat} (hd : d ≠ 0) {q : Int}
    (hq : binade n d - (precision - 1) ≤ q) :
    n * Nat.pow 2 (-q).toNat / (d * Nat.pow 2 q.toNat) < 2 ^ precision := by
  have hlt := lt_two_zpow_binade n hd
  have hpos : 0 < d * Nat.pow 2 q.toNat := Nat.mul_pos (Nat.pos_of_ne_zero hd) (Nat.pow_pos (by decide))
  have htwo : (2 : ℚ) ≠ 0 := by norm_num
  have hexp : binade n d + 1 + (-q).toNat ≤ precision + q.toNat := by omega
  rw [Nat.div_lt_iff_lt_mul hpos]
  have hcast : (n : ℚ) * 2 ^ (-q).toNat < 2 ^ precision * (d * 2 ^ q.toNat) := by
    calc (n : ℚ) * 2 ^ (-q).toNat < d * 2 ^ (binade n d + 1) * 2 ^ (-q).toNat := by gcongr
      _ = d * 2 ^ (binade n d + 1 + (-q).toNat) := by
        rw [mul_assoc, ← zpow_natCast, ← zpow_add₀ htwo]
      _ ≤ d * 2 ^ ((precision : Int) + q.toNat) :=
        mul_le_mul_of_nonneg_left (zpow_le_zpow_right₀ (by norm_num) hexp) (Nat.cast_nonneg d)
      _ = 2 ^ precision * (d * 2 ^ q.toNat) := by
        rw [zpow_add₀ htwo, zpow_natCast, zpow_natCast]
        ring
  exact_mod_cast hcast

theorem inRange_ofRatio (negative : Bool) (n : Nat) {d : Nat} (hd : d ≠ 0) :
    InRange (ofRatio negative n d) := by
  have hmin : minExponent = -1074 := rfl
  by_cases hn : n = 0
  · rw [ofRatio, if_pos hn]
    exact inRange_zero negative
  let q := max (binade n d - (precision - 1)) minExponent
  let m := Decimal.roundQuotient .toEven (n * Nat.pow 2 (-q).toNat) (d * Nat.pow 2 q.toNat)
  have hm : m ≤ 2 ^ precision :=
    (Decimal.roundQuotient_le_succ _ _ _).trans (div_lt_two_pow_precision hd (le_max_left _ _))
  have hq : minExponent ≤ q := le_max_right _ _
  unfold ofRatio
  rw [if_neg hn]
  dsimp only
  by_cases hcarry : m = Nat.pow 2 precision
  · rw [if_pos hcarry]
    dsimp only
    split
    · trivial
    · refine ⟨?_, by omega, by omega⟩
      show m / 2 < 2 ^ precision
      have hpos : 0 < 2 ^ precision := Nat.pow_pos (by decide)
      omega
  · rw [if_neg hcarry]
    dsimp only
    split
    · trivial
    · exact ⟨lt_of_le_of_ne hm hcarry, by omega, by omega⟩

theorem inRange_ofDecimal (d : Decimal) : InRange (ofDecimal d) := by
  unfold ofDecimal
  split
  · exact inRange_zero d.negative
  · split
    · trivial
    · split
      · exact inRange_zero d.negative
      · exact inRange_ofRatio _ _ (Nat.pow_pos (by decide)).ne'

theorem ofRatio_ne_nan (negative : Bool) (n d : Nat) : ofRatio negative n d ≠ .nan := by
  unfold ofRatio
  split
  · nofun
  · dsimp only
    split
    · split <;> nofun
    · split <;> nofun

theorem ofDecimal_ne_nan (d : Decimal) : ofDecimal d ≠ .nan := by
  unfold ofDecimal
  split
  · nofun
  · split
    · nofun
    · split
      · nofun
      · exact ofRatio_ne_nan _ _ _

end Binary64
end ReceiptTemplate
