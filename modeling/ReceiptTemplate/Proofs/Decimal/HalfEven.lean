import Mathlib.Data.Int.Log
import ReceiptTemplate.Proofs.Decimal.Value

/-!
# Half-even rounding — the nearest multiple of a power of ten

`roundHalfEven` is the nearest integer, with ties to the even one, and `roundAt` the nearest multiple
of a power of ten.  On fractions it is the rounded quotient, so dropping digits of a decimal is rounding
its value.

Two numbers that lie strictly between the same two multiples of half a unit are rounded alike: neither is a
tie, and no tie lies between them.  This is what lets a number be rounded through a shorter stand-in.
-/

namespace ReceiptTemplate

/-! ## Integers -/

/-- The integer nearest to a number; halfway between two integers it is the even one. -/
def roundHalfEven (x : ℚ) : ℤ :=
  if Int.fract x < 1 / 2 then ⌊x⌋
  else if 1 / 2 < Int.fract x then ⌊x⌋ + 1
  else if Even ⌊x⌋ then ⌊x⌋
  else ⌊x⌋ + 1

variable {x y : ℚ} {n j : ℤ}

theorem roundHalfEven_near (x : ℚ) :
    |x - roundHalfEven x| ≤ 1 / 2 ∧ (|x - roundHalfEven x| = 1 / 2 → Even (roundHalfEven x)) := by
  have hsplit : x = ⌊x⌋ + Int.fract x := (Int.floor_add_fract x).symm
  have hnonneg := Int.fract_nonneg x
  have hlt := Int.fract_lt_one x
  have hlow : |x - (⌊x⌋ : ℤ)| = Int.fract x := by
    rw [Int.self_sub_floor, abs_of_nonneg hnonneg]
  have hhigh : |x - ((⌊x⌋ + 1 : ℤ) : ℚ)| = 1 - Int.fract x := by
    push_cast
    rw [abs_of_nonpos (by linarith)]
    linarith
  unfold roundHalfEven
  split
  · rw [hlow]
    exact ⟨by linarith, fun h => by linarith⟩
  · split
    · rw [hhigh]
      exact ⟨by linarith, fun h => by linarith⟩
    · split
      · next heven =>
        rw [hlow]
        exact ⟨by linarith, fun _ => heven⟩
      · next hodd =>
        rw [hhigh]
        exact ⟨by linarith, fun _ => Int.even_add_one.2 hodd⟩

/-- Being nearest and, in a tie, even determines the integer. -/
theorem roundHalfEven_eq_of_near (hnear : |x - n| ≤ 1 / 2) (heven : |x - n| = 1 / 2 → Even n) :
    roundHalfEven x = n := by
  rcases roundHalfEven_near x with ⟨hnear', heven'⟩
  generalize roundHalfEven x = m at hnear' heven' ⊢
  rw [abs_le] at hnear hnear'
  have hupper : (m : ℚ) ≤ (n + 1 : ℤ) := by push_cast; linarith
  have hlower : (n : ℚ) ≤ (m + 1 : ℤ) := by push_cast; linarith
  have hupper' : m ≤ n + 1 := by exact_mod_cast hupper
  have hlower' : n ≤ m + 1 := by exact_mod_cast hlower
  rcases (by omega : m = n ∨ m = n + 1 ∨ n = m + 1) with rfl | rfl | rfl
  · rfl
  -- Two neighbours that are both nearest share a tie, and are not both even.
  · push_cast at hnear'
    have hn : |x - n| = 1 / 2 := by rw [abs_of_nonneg (by linarith)]; linarith
    have hm : |x - (n + 1 : ℤ)| = 1 / 2 := by
      push_cast
      rw [abs_of_nonpos (by linarith)]
      linarith
    have hparity := heven' hm
    rw [Int.even_add_one] at hparity
    exact absurd (heven hn) hparity
  · push_cast at hnear
    have hm : |x - m| = 1 / 2 := by rw [abs_of_nonneg (by linarith)]; linarith
    have hn : |x - (m + 1 : ℤ)| = 1 / 2 := by
      push_cast
      rw [abs_of_nonpos (by linarith)]
      linarith
    have hparity := heven hn
    rw [Int.even_add_one] at hparity
    exact absurd (heven' hm) hparity

theorem roundHalfEven_intCast (n : ℤ) : roundHalfEven n = n := by
  apply roundHalfEven_eq_of_near <;> norm_num

theorem roundHalfEven_neg (x : ℚ) : roundHalfEven (-x) = -roundHalfEven x := by
  rcases roundHalfEven_near x with ⟨hnear, heven⟩
  have habs : |-x - (-roundHalfEven x : ℤ)| = |x - roundHalfEven x| := by
    rw [← abs_neg]
    push_cast
    ring_nf
  apply roundHalfEven_eq_of_near
  · rwa [habs]
  · rw [habs, even_neg]
    exact heven

/-- A number at or above an integer is not rounded below it. -/
theorem le_roundHalfEven (h : n ≤ x) : n ≤ roundHalfEven x := by
  have hnear := abs_le.1 (roundHalfEven_near x).1
  have hlt : (n : ℚ) < (roundHalfEven x + 1 : ℤ) := by push_cast; linarith
  exact Int.lt_add_one_iff.1 (by exact_mod_cast hlt)

theorem roundHalfEven_le (h : x ≤ n) : roundHalfEven x ≤ n := by
  have hneg := le_roundHalfEven (n := -n) (x := -x) (by push_cast; linarith)
  rw [roundHalfEven_neg] at hneg
  omega

/-- An even integer is reached from half a unit below it on. -/
theorem even_le_roundHalfEven_iff (hn : Even n) : n ≤ roundHalfEven x ↔ n - 1 / 2 ≤ x := by
  rcases roundHalfEven_near x with ⟨hnear, htie⟩
  generalize roundHalfEven x = m at hnear htie
  rw [abs_le] at hnear
  constructor
  · intro h
    have hcast : (n : ℚ) ≤ m := by exact_mod_cast h
    linarith
  · intro h
    by_contra hlt
    -- Only the odd integer below could be nearer, and it would have to win the tie.
    have hcast : (m : ℚ) + 1 ≤ n := by exact_mod_cast Int.not_le.1 hlt
    have hhalf : |x - m| = 1 / 2 := by
      rw [abs_of_nonneg (by linarith)]
      linarith
    have hpred : (n : ℚ) = (m + 1 : ℤ) := by
      push_cast
      linarith
    have hsucc : n = m + 1 := by exact_mod_cast hpred
    exact Int.even_add_one.1 (hsucc ▸ hn) (htie hhalf)

/-- Strictly between two neighbouring halves there is no tie. -/
theorem roundHalfEven_of_between (hlow : j < 2 * x) (hhigh : 2 * x < j + 1) :
    roundHalfEven x = (j + 1) / 2 := by
  have hlt : |x - ((j + 1) / 2 : ℤ)| < 1 / 2 := by
    rcases Int.even_or_odd' j with ⟨i, rfl | rfl⟩
    · have hdiv : (2 * i + 1) / 2 = i := by omega
      rw [hdiv, abs_lt]
      push_cast at hlow hhigh
      constructor <;> linarith
    · have hdiv : (2 * i + 1 + 1) / 2 = i + 1 := by omega
      rw [hdiv, abs_lt]
      push_cast at hlow hhigh ⊢
      constructor <;> linarith
  exact roundHalfEven_eq_of_near hlt.le fun htie => absurd htie hlt.ne

/-! ## Multiples of a power of ten -/

/-- The multiple of `10^e` nearest to a number; halfway between two of them it is the even one. -/
def roundAt (e : ℤ) (x : ℚ) : ℚ :=
  roundHalfEven (x / 10 ^ e) * 10 ^ e

variable {e k : ℤ}

theorem ten_zpow_pos (e : ℤ) : (0 : ℚ) < 10 ^ e :=
  zpow_pos (by norm_num) e

theorem ten_zpow_add (e k : ℤ) : (10 : ℚ) ^ (e + k) = 10 ^ e * 10 ^ k :=
  zpow_add₀ (by norm_num) e k

theorem roundAt_zero (e : ℤ) : roundAt e 0 = 0 := by
  have hround := roundHalfEven_intCast 0
  rw [Int.cast_zero] at hround
  rw [roundAt, zero_div, hround, Int.cast_zero, zero_mul]

theorem roundAt_neg (e : ℤ) (x : ℚ) : roundAt e (-x) = -roundAt e x := by
  rw [roundAt, neg_div, roundHalfEven_neg, roundAt]
  push_cast
  ring

theorem abs_roundAt (e : ℤ) (x : ℚ) : |roundAt e x| = roundAt e |x| := by
  have hnonneg : 0 ≤ roundAt e |x| := by
    have hdiv : ((0 : ℤ) : ℚ) ≤ |x| / 10 ^ e := by
      have hpos := ten_zpow_pos e
      push_cast
      positivity
    have hround : (0 : ℚ) ≤ roundHalfEven (|x| / 10 ^ e) := by exact_mod_cast le_roundHalfEven hdiv
    exact mul_nonneg hround (ten_zpow_pos e).le
  rcases abs_choice x with h | h
  · rw [h] at hnonneg ⊢
    exact abs_of_nonneg hnonneg
  · rw [h, roundAt_neg] at hnonneg ⊢
    rw [abs_of_nonpos (by linarith)]

/-- Powers of ten from `10^e` on are multiples of it. -/
theorem exists_mul_ten_zpow (h : e ≤ k) : ∃ m : ℕ, (10 : ℚ) ^ k = m * 10 ^ e := by
  obtain ⟨i, hi⟩ : ∃ i : ℕ, k = i + e := ⟨(k - e).toNat, by omega⟩
  refine ⟨10 ^ i, ?_⟩
  rw [hi, ten_zpow_add, zpow_natCast]
  push_cast
  rfl

/-- A multiple of `10^e` is left as it is. -/
theorem roundAt_intCast_mul (h : e ≤ k) (n : ℤ) : roundAt e (n * 10 ^ k) = n * 10 ^ k := by
  obtain ⟨m, hm⟩ := exists_mul_ten_zpow h
  have hdiv : (n * 10 ^ k : ℚ) / 10 ^ e = ((n * m : ℤ) : ℚ) := by
    rw [hm]
    have hne := (ten_zpow_pos e).ne'
    push_cast
    field_simp
  rw [roundAt, hdiv, roundHalfEven_intCast, hm]
  push_cast
  ring

/-- Rounding does not cross a power of ten that it keeps. -/
theorem ten_zpow_le_roundAt (h : e ≤ k) (hx : 10 ^ k ≤ x) : 10 ^ k ≤ roundAt e x := by
  obtain ⟨m, hm⟩ := exists_mul_ten_zpow h
  have hpos := ten_zpow_pos e
  have hle : ((m : ℤ) : ℚ) ≤ x / 10 ^ e := by
    rw [le_div_iff₀ hpos]
    exact_mod_cast hm ▸ hx
  have hround : (m : ℚ) ≤ roundHalfEven (x / 10 ^ e) := by exact_mod_cast le_roundHalfEven hle
  rw [hm, roundAt]
  exact mul_le_mul_of_nonneg_right hround hpos.le

theorem roundAt_le_ten_zpow (h : e ≤ k) (hx : x ≤ 10 ^ k) : roundAt e x ≤ 10 ^ k := by
  obtain ⟨m, hm⟩ := exists_mul_ten_zpow h
  have hpos := ten_zpow_pos e
  have hle : x / 10 ^ e ≤ ((m : ℤ) : ℚ) := by
    rw [div_le_iff₀ hpos]
    exact_mod_cast hm ▸ hx
  have hround : (roundHalfEven (x / 10 ^ e) : ℚ) ≤ m := by exact_mod_cast roundHalfEven_le hle
  rw [hm, roundAt]
  exact mul_le_mul_of_nonneg_right hround hpos.le

/-- Shifting a number and the place shifts the rounded number. -/
theorem roundAt_mul_ten_zpow (e k : ℤ) (x : ℚ) : roundAt (e + k) (x * 10 ^ k) = roundAt e x * 10 ^ k := by
  have hdiv : x * 10 ^ k / 10 ^ (e + k) = x / 10 ^ e := by
    have he := (ten_zpow_pos e).ne'
    have hk := (ten_zpow_pos k).ne'
    rw [ten_zpow_add]
    field_simp
  rw [roundAt, hdiv, ten_zpow_add, roundAt]
  ring

theorem log_abs_eq (hlow : 10 ^ k ≤ |x|) (hhigh : |x| < 10 ^ (k + 1)) : Int.log 10 |x| = k := by
  have hpos : 0 < |x| := lt_of_lt_of_le (ten_zpow_pos k) hlow
  have hle : k ≤ Int.log 10 |x| := (Int.zpow_le_iff_le_log (by decide) hpos).1 (by exact_mod_cast hlow)
  have hlt : Int.log 10 |x| < k + 1 :=
    (Int.lt_zpow_iff_log_lt (by decide) hpos).1 (by exact_mod_cast hhigh)
  omega

/-! ## Numbers that are rounded alike -/

/-- Two numbers in the same half of a unit: strictly between the same two multiples of half of `10^e`. -/
def SameHalf (e : ℤ) (x y : ℚ) : Prop :=
  ∃ j : ℤ, (j < 2 * x / 10 ^ e ∧ 2 * x / 10 ^ e < j + 1) ∧ (j < 2 * y / 10 ^ e ∧ 2 * y / 10 ^ e < j + 1)

namespace SameHalf

theorem symm (h : SameHalf e x y) : SameHalf e y x := by
  rcases h with ⟨j, hx, hy⟩
  exact ⟨j, hy, hx⟩

theorem neg (h : SameHalf e x y) : SameHalf e (-x) (-y) := by
  have hflip (z : ℚ) : 2 * -z / 10 ^ e = -(2 * z / 10 ^ e) := by ring
  rcases h with ⟨j, ⟨hx, hx'⟩, ⟨hy, hy'⟩⟩
  refine ⟨-j - 1, ?_⟩
  rw [hflip, hflip]
  push_cast
  exact ⟨⟨by linarith, by linarith⟩, ⟨by linarith, by linarith⟩⟩

/-- Halves of a larger unit are not separated either. -/
theorem mono (h : SameHalf e x y) (hk : e ≤ k) : SameHalf k x y := by
  rcases h with ⟨j, ⟨hx, hx'⟩, ⟨hy, hy'⟩⟩
  obtain ⟨m, hm⟩ := exists_mul_ten_zpow hk
  have hpos := ten_zpow_pos e
  have hmpos : (0 : ℚ) < m := by
    have hkpos := ten_zpow_pos k
    rw [hm] at hkpos
    exact pos_of_mul_pos_left hkpos hpos.le
  have hm0 : (0 : ℤ) < m := by exact_mod_cast hmpos
  have hscale (z : ℚ) : 2 * z / 10 ^ e = 2 * z / 10 ^ k * m := by
    rw [hm]
    field_simp
  have hfloor : ((j / m : ℤ) : ℚ) * m ≤ j := by exact_mod_cast Int.ediv_mul_le j hm0.ne'
  have hceil : (j + 1 : ℚ) ≤ ((j / m : ℤ) + 1) * m := by
    exact_mod_cast Int.add_one_le_of_lt (Int.lt_ediv_add_one_mul_self j hm0)
  rw [hscale] at hx hx' hy hy'
  refine ⟨j / m, ⟨?_, ?_⟩, ⟨?_, ?_⟩⟩
  · exact lt_of_mul_lt_mul_right (lt_of_le_of_lt hfloor hx) hmpos.le
  · exact lt_of_mul_lt_mul_right (lt_of_lt_of_le hx' hceil) hmpos.le
  · exact lt_of_mul_lt_mul_right (lt_of_le_of_lt hfloor hy) hmpos.le
  · exact lt_of_mul_lt_mul_right (lt_of_lt_of_le hy' hceil) hmpos.le

theorem roundAt_eq (h : SameHalf e x y) (hk : e ≤ k) : roundAt k x = roundAt k y := by
  rcases h.mono hk with ⟨j, ⟨hx, hx'⟩, ⟨hy, hy'⟩⟩
  rw [mul_div_assoc] at hx hx' hy hy'
  rw [roundAt, roundAt, roundHalfEven_of_between hx hx', roundHalfEven_of_between hy hy']

/-- Both numbers lie on the same side of every multiple of the unit. -/
theorem lt_iff (h : SameHalf e x y) (m : ℤ) : x < m * 10 ^ e ↔ y < m * 10 ^ e := by
  have hpos := ten_zpow_pos e
  have hhalf (z : ℚ) : z < m * 10 ^ e ↔ 2 * z / 10 ^ e < (2 * m : ℤ) := by
    rw [div_lt_iff₀ hpos]
    push_cast
    constructor <;> intro hlt <;> linarith
  rcases h with ⟨j, ⟨hx, hx'⟩, ⟨hy, hy'⟩⟩
  rw [hhalf, hhalf]
  constructor
  · intro hlt
    have hj : j < 2 * m := by exact_mod_cast hx.trans hlt
    exact hy'.trans_le (by exact_mod_cast hj)
  · intro hlt
    have hj : j < 2 * m := by exact_mod_cast hy.trans hlt
    exact hx'.trans_le (by exact_mod_cast hj)

theorem neg_iff (h : SameHalf e x y) : x < 0 ↔ y < 0 := by
  simpa using h.lt_iff 0

theorem abs (h : SameHalf e x y) : SameHalf e |x| |y| := by
  by_cases hx : x < 0
  · rw [abs_of_neg hx, abs_of_neg (h.neg_iff.1 hx)]
    exact h.neg
  · rw [abs_of_nonneg (not_lt.1 hx), abs_of_nonneg (not_lt.1 (mt h.neg_iff.2 hx))]
    exact h

theorem abs_lt_ten_zpow_iff (h : SameHalf e x y) (hk : e ≤ k) : |x| < 10 ^ k ↔ |y| < 10 ^ k := by
  obtain ⟨m, hm⟩ := exists_mul_ten_zpow hk
  rw [hm]
  exact h.abs.lt_iff m

/-- No multiple of half a unit is in the open half. -/
theorem ne_zero (h : SameHalf e x y) : x ≠ 0 := by
  rintro rfl
  rcases h with ⟨j, ⟨hx, hx'⟩, -⟩
  rw [mul_zero, zero_div] at hx hx'
  have hlow : j < 0 := by exact_mod_cast hx
  have hhigh : 0 < j + 1 := by exact_mod_cast hx'
  omega

end SameHalf

/-! ## Dropping digits -/

namespace Decimal

variable {d : Decimal}

/-- On fractions the nearest even integer is the rounded quotient. -/
theorem roundHalfEven_div (n : ℕ) {m : ℕ} (hm : 0 < m) :
    roundHalfEven ((n : ℚ) / m) = (roundQuotient .toEven n m : ℤ) := by
  have hmpos : (0 : ℚ) < m := by exact_mod_cast hm
  have hsplit : (n : ℚ) / m = (n / m : ℕ) + (n % m : ℕ) / m := by
    have hn : (n : ℚ) = m * (n / m : ℕ) + (n % m : ℕ) := by exact_mod_cast (Nat.div_add_mod n m).symm
    rw [hn]
    field_simp
  have hfloor : ⌊(n : ℚ) / m⌋ = (n / m : ℕ) := Rat.floor_natCast_div_natCast n m
  have hfract : Int.fract ((n : ℚ) / m) = (n % m : ℕ) / m := by
    rw [← Int.self_sub_floor, hfloor, hsplit, Int.cast_natCast, add_sub_cancel_left]
  have hlow : Int.fract ((n : ℚ) / m) < 1 / 2 ↔ 2 * (n % m) < m := by
    rw [hfract, div_lt_div_iff₀ hmpos two_pos, ← Nat.cast_lt (α := ℚ)]
    push_cast
    constructor <;> intro hlt <;> linarith
  have hhigh : 1 / 2 < Int.fract ((n : ℚ) / m) ↔ m < 2 * (n % m) := by
    rw [hfract, div_lt_div_iff₀ two_pos hmpos, ← Nat.cast_lt (α := ℚ)]
    push_cast
    constructor <;> intro hlt <;> linarith
  have heven : Even ((n / m : ℕ) : ℤ) ↔ n / m % 2 = 0 := by
    rw [Int.even_coe_nat, Nat.even_iff]
  unfold roundHalfEven roundQuotient
  simp only [hlow, hhigh, hfloor, heven]
  split_ifs <;> simp

theorem roundCoefficient_toEven (h : d.exponent < e) :
    (d.roundCoefficient .toEven e : ℤ) = roundHalfEven (d.abs.toRat / 10 ^ e) := by
  obtain ⟨k, hk⟩ : ∃ k : ℕ, e = d.exponent + k := ⟨(e - d.exponent).toNat, by omega⟩
  have htoNat : (e - d.exponent).toNat = k := by omega
  have hquotient : d.abs.toRat / 10 ^ e = (d.coefficient : ℚ) / (10 ^ k : ℕ) := by
    have hne := (ten_zpow_pos d.exponent).ne'
    rw [toRat_abs, hk, ten_zpow_add, zpow_natCast]
    push_cast
    field_simp
  rw [hquotient, roundHalfEven_div _ (by positivity)]
  unfold roundCoefficient
  split
  · next hsmall =>
    -- Less than a tenth of the unit is left, and the quotient is rounded down as well.
    have hcount : digitCount d.coefficient + 1 ≤ k := by
      simp only [adjusted] at hsmall
      omega
    have hpow : 10 ^ (digitCount d.coefficient + 1) ≤ 10 ^ k :=
      Nat.pow_le_pow_right (by decide) hcount
    have hlt := lt_pow_digitCount d.coefficient
    rw [Nat.pow_succ] at hpow
    have hdown : roundQuotient .toEven d.coefficient (10 ^ k) = 0 := by
      rw [roundQuotient, Nat.mod_eq_of_lt (by omega), if_pos (by omega)]
      exact Nat.div_eq_of_lt (by omega)
    rw [hdown]
  · rw [htoNat]
    rfl

/-- A magnitude without the digits below `10^e`. -/
theorem roundCoefficient_mul_toEven (h : d.exponent < e) :
    (d.roundCoefficient .toEven e : ℚ) * 10 ^ e = roundAt e d.abs.toRat := by
  have hround := roundCoefficient_toEven h
  rw [roundAt, ← hround]
  norm_cast

theorem roundAt_of_le_exponent (h : e ≤ d.exponent) : roundAt e d.toRat = d.toRat := by
  have habs := roundAt_intCast_mul h d.coefficient
  unfold toRat
  push_cast at habs
  split
  · rw [roundAt_neg, habs]
  · exact habs

/-- A coefficient that was rounded at a place stands for the number rounded there. -/
theorem toRat_of_roundAt {c : ℕ} {k : ℤ} (h : (c : ℚ) * 10 ^ e = roundAt k d.abs.toRat) :
    (⟨d.negative, c, e⟩ : Decimal).toRat = roundAt k d.toRat := by
  rw [toRat_eq d]
  unfold toRat
  dsimp only
  rw [h]
  split
  · exact (roundAt_neg k _).symm
  · rfl

theorem toRat_roundPlaces_toEven (places : ℕ) (d : Decimal) :
    (d.roundPlaces .toEven places).toRat = roundAt (-places) d.toRat := by
  unfold roundPlaces
  split
  · next hexact => exact (roundAt_of_le_exponent hexact).symm
  · next hlow => exact toRat_of_roundAt (roundCoefficient_mul_toEven (not_le.1 hlow))

/-! ## Leading digits -/

theorem log_abs_toRat (hd : d.isZero = false) : Int.log 10 |d.toRat| = d.adjusted :=
  log_abs_eq (le_abs_toRat hd) (abs_toRat_lt d)

end Decimal
end ReceiptTemplate
