import Mathlib.Algebra.GroupWithZero.Nat
import ProgramGuide.Number.Binary64

/-!
# Rounding

No ratio is rounded to a NaN, and none that reaches the least positive double is rounded
to zero.  The double of a word of 64 bits lies in the middle of the range, so the quotient
of two nonzero words is neither.
-/

namespace ProgramGuide.Binary64

theorem div_le_divideToEven (n d : Nat) : n / d ≤ divideToEven n d := by
  unfold divideToEven
  dsimp only
  split <;> omega

theorem divideToEven_le (n d : Nat) : divideToEven n d ≤ n / d + 1 := by
  unfold divideToEven
  dsimp only
  split <;> omega

theorem nearest_le (n d : Nat) : nearest n d ≤ infiniteMagnitude :=
  Nat.min_le_right _ _

theorem nearest_pos {n d k : Nat} (hd : 0 < d) (hk : k ≤ 1074) (h : d ≤ n * 2 ^ k) :
    0 < nearest n d := by
  unfold nearest
  refine Nat.lt_min.mpr ⟨?_, by decide⟩
  -- The power counts only as great enough; as a literal it would be computed.
  generalize 1074 = bias at hk ⊢
  by_cases he : raisedLog n d - 52 = 0
  · have hone : d * Nat.pow 2 0 = d := Nat.mul_one d
    have hquotient : 0 < n * Nat.pow 2 bias / d :=
      Nat.div_pos (Nat.le_trans h (Nat.mul_le_mul_left n (Nat.pow_le_pow_right Nat.two_pos hk))) hd
    rw [he, hone]
    exact Nat.add_pos_right _ (Nat.lt_of_lt_of_le hquotient (div_le_divideToEven _ _))
  · have hbinade : 0 < (raisedLog n d - 52) * Nat.pow 2 52 :=
      Nat.mul_pos (by omega) (Nat.two_pow_pos 52)
    exact Nat.add_pos_left hbinade _

theorem raisedLog_one {n : Nat} (hn : n ≠ 0) : raisedLog n 1 = 1074 + n.log2 := by
  have hone : Nat.log2 1 = 0 := by decide
  unfold raisedLog
  generalize 1074 = bias
  have hlow : 2 ^ (bias + n.log2) ≤ n * 2 ^ bias := by
    rw [Nat.pow_add, Nat.mul_comm n]
    exact Nat.mul_le_mul_left _ (Nat.log2_self_le hn)
  simp [hn, hone, Nat.not_lt.mpr hlow]

theorem scaled_div_lt (n k e : Nat) (h : k + n.log2 = 52 + e) :
    n * Nat.pow 2 k / Nat.pow 2 e < 2 ^ 53 := by
  simp only [Nat.pow_eq]
  rw [Nat.div_lt_iff_lt_mul (Nat.two_pow_pos _)]
  calc n * 2 ^ k < 2 ^ (n.log2 + 1) * 2 ^ k :=
        Nat.mul_lt_mul_of_pos_right Nat.lt_log2_self (Nat.two_pow_pos _)
    _ = 2 ^ 53 * 2 ^ e := by
        rw [← Nat.pow_add, ← Nat.pow_add]
        congr 1
        omega

/-! ## Words -/

/-- From about `2 ^ (-1)` to about `2 ^ 65`. -/
structure Moderate (m : Nat) : Prop where
  low : 1022 * 2 ^ 52 ≤ m
  high : m < 1088 * 2 ^ 52

theorem moderate_nearest {n : Nat} (hn : n ≠ 0) (hword : n ≤ 2 ^ 63) :
    Moderate (nearest n 1) := by
  have hlog : n.log2 < 64 := (Nat.log2_lt hn).mpr (by omega)
  have hbinade : Nat.pow 2 52 = 2 ^ 52 := rfl
  have hfinite : infiniteMagnitude = 2047 * 2 ^ 52 := rfl
  unfold nearest
  rw [raisedLog_one hn]
  generalize hbias : 1074 = bias
  dsimp only
  have hquotient := scaled_div_lt n bias (bias + n.log2 - 52) (by omega)
  have hrounded := divideToEven_le (n * Nat.pow 2 bias) (Nat.pow 2 (bias + n.log2 - 52))
  rw [Nat.one_mul, hfinite, hbinade]
  constructor <;> omega

theorem Moderate.ratio_bounds {m : Nat} (h : Moderate m) :
    (0 < (ratio m).1 ∧ (ratio m).1 ≤ 2 ^ 65) ∧ 0 < (ratio m).2 ∧ (ratio m).2 ≤ 2 ^ 53 := by
  obtain ⟨hlow, hhigh⟩ := h
  have hsignificand : significand m = (2 ^ 52 + m % 2 ^ 52, m / 2 ^ 52 - 1) :=
    if_neg (by rw [Nat.pow_eq]; omega)
  have hscale {k l : Nat} (h : k ≤ l) : 0 < Nat.pow 2 k ∧ Nat.pow 2 k ≤ 2 ^ l :=
    ⟨Nat.two_pow_pos k, Nat.pow_le_pow_right (by decide) h⟩
  unfold ratio
  rw [hsignificand]
  dsimp only
  -- From `2 ^ 52` on a double is whole, below that its denominator is a power of two.
  split
  next he =>
    obtain ⟨hpos, hle⟩ := hscale (show m / 2 ^ 52 - 1 - 1074 ≤ 12 by omega)
    refine ⟨⟨Nat.mul_pos (by omega) hpos, ?_⟩, Nat.one_pos, Nat.one_le_two_pow⟩
    calc (2 ^ 52 + m % 2 ^ 52) * Nat.pow 2 (m / 2 ^ 52 - 1 - 1074) ≤ 2 ^ 53 * 2 ^ 12 :=
          Nat.mul_le_mul (by omega) hle
      _ = 2 ^ 65 := by decide
  next he => exact ⟨⟨by omega, by omega⟩, hscale (by omega)⟩

variable {x y : Binary64}

theorem Moderate.finite (h : Moderate x.magnitude) :
    x.isNaN = false ∧ x.isInfinite = false ∧ x.isZero = false := by
  obtain ⟨hlow, hhigh⟩ := h
  have hfinite : infiniteMagnitude = 2047 * 2 ^ 52 := rfl
  simp only [isNaN, isInfinite, isZero, hfinite, decide_eq_false_iff_not, beq_eq_false_iff_ne]
  omega

theorem div_of_moderate (hx : Moderate x.magnitude) (hy : Moderate y.magnitude) :
    x.div y = ⟨x.negative != y.negative,
      nearest ((ratio x.magnitude).1 * (ratio y.magnitude).2)
        ((ratio x.magnitude).2 * (ratio y.magnitude).1)⟩ := by
  simp [div, hx.finite, hy.finite]

theorem div_ofInt {m n : Int} (hm : m ≠ 0) (hn : n ≠ 0) (hm' : m.natAbs ≤ 2 ^ 63)
    (hn' : n.natAbs ≤ 2 ^ 63) :
    ((ofInt m).div (ofInt n)).isZero = false ∧ ((ofInt m).div (ofInt n)).isNaN = false := by
  have hx : Moderate (ofInt m).magnitude := moderate_nearest (by omega) hm'
  have hy : Moderate (ofInt n).magnitude := moderate_nearest (by omega) hn'
  obtain ⟨⟨ha, -⟩, hb, hb'⟩ := hx.ratio_bounds
  obtain ⟨⟨hc, hc'⟩, hd, -⟩ := hy.ratio_bounds
  have hleast : (ratio (ofInt m).magnitude).2 * (ratio (ofInt n).magnitude).1 ≤
      (ratio (ofInt m).magnitude).1 * (ratio (ofInt n).magnitude).2 * 2 ^ 118 :=
    calc (ratio (ofInt m).magnitude).2 * (ratio (ofInt n).magnitude).1 ≤ 2 ^ 53 * 2 ^ 65 :=
          Nat.mul_le_mul hb' hc'
      _ = 2 ^ 118 := by decide
      _ ≤ _ := Nat.le_mul_of_pos_left _ (Nat.mul_pos ha hd)
  rw [div_of_moderate hx hy]
  constructor
  · have hpositive := nearest_pos (Nat.mul_pos hb hc) (by decide) hleast
    simpa [isZero] using Nat.ne_of_gt hpositive
  · simpa [isNaN] using nearest_le _ _

/-! ## Finite products -/

theorem ratio_le_of_magnitude_le {m k : Nat} (h : m ≤ (1023 + k) * 2 ^ 52) :
    (ratio m).1 ≤ 2 ^ k * (ratio m).2 ∧ 0 < (ratio m).2 := by
  unfold ratio significand
  generalize hbias : 1074 = bias
  simp only [Nat.pow_eq]
  by_cases hsmall : m < 2 ^ 52
  · rw [if_pos hsmall]
    dsimp only
    rw [if_neg (by omega), Nat.sub_zero]
    refine ⟨?_, Nat.two_pow_pos bias⟩
    calc m ≤ 2 ^ bias := Nat.le_trans (Nat.le_of_lt hsmall) (Nat.pow_le_pow_right Nat.two_pos (by omega))
      _ ≤ 2 ^ k * 2 ^ bias := Nat.le_mul_of_pos_left _ (Nat.two_pow_pos k)
  · rw [if_neg hsmall]
    dsimp only
    generalize hs : 2 ^ 52 + m % 2 ^ 52 = s
    generalize he : m / 2 ^ 52 - 1 = e
    have hscaled : s * 2 ^ e ≤ 2 ^ k * 2 ^ bias := by
      rw [← Nat.pow_add]
      by_cases hlast : e = 1022 + k
      · have hs' : s = 2 ^ 52 := by omega
        rw [hs', ← Nat.pow_add]
        exact Nat.pow_le_pow_right Nat.two_pos (by omega)
      · calc s * 2 ^ e ≤ 2 ^ 53 * 2 ^ e := Nat.mul_le_mul_right _ (by omega)
          _ = 2 ^ (53 + e) := (Nat.pow_add ..).symm
          _ ≤ _ := Nat.pow_le_pow_right Nat.two_pos (by omega)
    split
    next hlarge =>
      refine ⟨?_, Nat.one_pos⟩
      rw [Nat.mul_one]
      refine Nat.le_of_mul_le_mul_right ?_ (Nat.two_pow_pos bias)
      rwa [Nat.mul_assoc, ← Nat.pow_add, Nat.sub_add_cancel hlarge]
    next hlarge =>
      refine ⟨?_, Nat.two_pow_pos _⟩
      refine Nat.le_of_mul_le_mul_right ?_ (Nat.two_pow_pos e)
      rwa [Nat.mul_assoc, ← Nat.pow_add, Nat.sub_add_cancel (by omega)]

theorem divideToEven_zero (d : Nat) : divideToEven 0 d = 0 := by
  cases d with
  | zero => rfl
  | succ d => simp [divideToEven]

theorem nearest_zero (d : Nat) : nearest 0 d = 0 := by
  unfold nearest
  generalize 1074 = bias
  simp [raisedLog, divideToEven_zero]

theorem nearest_one_le {n k : Nat} (h : n < 2 ^ k) : nearest n 1 ≤ (1023 + k) * 2 ^ 52 := by
  by_cases hn : n = 0
  · rw [hn, nearest_zero]
    exact Nat.zero_le _
  · have hlog : n.log2 < k := (Nat.log2_lt hn).mpr h
    have hbinade : Nat.pow 2 52 = 2 ^ 52 := rfl
    unfold nearest
    rw [raisedLog_one hn]
    generalize hbias : 1074 = bias
    dsimp only
    have hquotient := scaled_div_lt n bias (bias + n.log2 - 52) (by omega)
    have hrounded := divideToEven_le (n * Nat.pow 2 bias) (Nat.pow 2 (bias + n.log2 - 52))
    rw [Nat.one_mul, hbinade]
    omega

theorem raisedLog_bounds {n d : Nat} (hn : n ≠ 0) (hd : d ≠ 0) :
    n * 2 ^ 1074 < d * 2 ^ (raisedLog n d + 1) ∧
      (raisedLog n d = 0 ∨ d * 2 ^ raisedLog n d ≤ n * 2 ^ 1074) := by
  unfold raisedLog
  rw [if_neg (by simpa using hn)]
  generalize 1074 = bias
  dsimp only
  generalize hestimate : bias + n.log2 - d.log2 = estimate
  simp only [Nat.pow_eq]
  have hlow : 2 ^ (bias + n.log2) ≤ n * 2 ^ bias := by
    rw [Nat.pow_add, Nat.mul_comm n]
    exact Nat.mul_le_mul_left _ (Nat.log2_self_le hn)
  have hhigh : n * 2 ^ bias < 2 ^ (bias + n.log2 + 1) := by
    rw [Nat.add_assoc, Nat.pow_add, Nat.mul_comm n]
    exact Nat.mul_lt_mul_of_pos_left Nat.lt_log2_self (Nat.two_pow_pos bias)
  have hscaled (k : Nat) : 2 ^ (d.log2 + k) ≤ d * 2 ^ k ∧ d * 2 ^ k < 2 ^ (d.log2 + 1 + k) := by
    rw [Nat.pow_add, Nat.pow_add]
    exact ⟨Nat.mul_le_mul_right _ (Nat.log2_self_le hd),
      Nat.mul_lt_mul_of_pos_right Nat.lt_log2_self (Nat.two_pow_pos k)⟩
  split
  next hless =>
    cases estimate with
    | zero =>
        refine ⟨Nat.lt_of_lt_of_le hless ?_, .inl rfl⟩
        exact Nat.mul_le_mul_left d (Nat.pow_le_pow_right Nat.two_pos (by omega))
    | succ estimate =>
        refine ⟨hless, .inr ?_⟩
        calc d * 2 ^ estimate ≤ 2 ^ (d.log2 + 1 + estimate) := Nat.le_of_lt (hscaled estimate).2
          _ = 2 ^ (bias + n.log2) := by
              congr 1
              omega
          _ ≤ n * 2 ^ bias := hlow
  next hless =>
    refine ⟨?_, .inr (Nat.not_lt.mp hless)⟩
    calc n * 2 ^ bias < 2 ^ (bias + n.log2 + 1) := hhigh
      _ ≤ 2 ^ (d.log2 + (estimate + 1)) := Nat.pow_le_pow_right Nat.two_pos (by omega)
      _ ≤ d * 2 ^ (estimate + 1) := (hscaled (estimate + 1)).1

theorem infiniteMagnitude_eq : infiniteMagnitude = 2047 * 2 ^ 52 := rfl

theorem nearest_lt_infinite {n d k : Nat} (hd : d ≠ 0) (hk : k ≤ 1023) (h : n < 2 ^ k * d) :
    nearest n d < infiniteMagnitude := by
  by_cases hn : n = 0
  · rw [hn, nearest_zero]
    decide
  · obtain ⟨hupper, hlower⟩ := raisedLog_bounds hn hd
    unfold nearest
    generalize raisedLog n d = log at hupper hlower ⊢
    generalize hbias : 1074 = bias at hupper hlower ⊢
    have hlog : log < k + bias := by
      rcases hlower with rfl | hlower
      · omega
      · apply (Nat.pow_lt_pow_iff_right Nat.one_lt_two).mp
        apply Nat.lt_of_mul_lt_mul_left
        calc d * 2 ^ log ≤ n * 2 ^ bias := hlower
          _ < 2 ^ k * d * 2 ^ bias := Nat.mul_lt_mul_of_pos_right h (Nat.two_pow_pos bias)
          _ = d * 2 ^ (k + bias) := by rw [Nat.pow_add, Nat.mul_comm _ d, Nat.mul_assoc]
    have hquotient : n * Nat.pow 2 bias / (d * Nat.pow 2 (log - 52)) < 2 ^ 53 := by
      simp only [Nat.pow_eq]
      rw [Nat.div_lt_iff_lt_mul (Nat.mul_pos (Nat.pos_of_ne_zero hd) (Nat.two_pow_pos _))]
      calc n * 2 ^ bias < d * 2 ^ (log + 1) := hupper
        _ ≤ d * 2 ^ (53 + (log - 52)) :=
            Nat.mul_le_mul_left d (Nat.pow_le_pow_right Nat.two_pos (by omega))
        _ = 2 ^ 53 * (d * 2 ^ (log - 52)) := by rw [Nat.pow_add, Nat.mul_left_comm]
    have hrounded := divideToEven_le (n * Nat.pow 2 bias) (d * Nat.pow 2 (log - 52))
    have hexponent : (log - 52) * 2 ^ 52 ≤ 2044 * 2 ^ 52 :=
      Nat.mul_le_mul_right _ (by omega)
    refine Nat.lt_of_le_of_lt (Nat.min_le_left _ _) ?_
    calc (log - 52) * 2 ^ 52 + divideToEven (n * Nat.pow 2 bias) (d * Nat.pow 2 (log - 52))
        ≤ 2044 * 2 ^ 52 + 2 ^ 53 := Nat.add_le_add hexponent (Nat.le_trans hrounded hquotient)
      _ < infiniteMagnitude := by decide

theorem mul_isInfinite {x y : Binary64} {j k : Nat} (hx : x.magnitude ≤ (1023 + j) * 2 ^ 52)
    (hy : y.magnitude ≤ (1023 + k) * 2 ^ 52) (h : j + k < 1023) :
    (x.mul y).isInfinite = false := by
  have hfinite {m : Nat} (hm : m ≤ (1023 + (j + k)) * 2 ^ 52) :
      ¬infiniteMagnitude < m ∧ m ≠ infiniteMagnitude := by
    rw [infiniteMagnitude_eq]
    omega
  have hx' := hfinite (Nat.le_trans hx (Nat.mul_le_mul_right _ (by omega)))
  have hy' := hfinite (Nat.le_trans hy (Nat.mul_le_mul_right _ (by omega)))
  obtain ⟨hvalue, hpos⟩ := ratio_le_of_magnitude_le hx
  obtain ⟨hvalue', hpos'⟩ := ratio_le_of_magnitude_le hy
  have hproduct : (ratio x.magnitude).1 * (ratio y.magnitude).1 <
      2 ^ (j + k + 1) * ((ratio x.magnitude).2 * (ratio y.magnitude).2) :=
    calc (ratio x.magnitude).1 * (ratio y.magnitude).1
        ≤ 2 ^ j * (ratio x.magnitude).2 * (2 ^ k * (ratio y.magnitude).2) :=
          Nat.mul_le_mul hvalue hvalue'
      _ = 2 ^ (j + k) * ((ratio x.magnitude).2 * (ratio y.magnitude).2) := by
          rw [Nat.pow_add]
          ac_rfl
      _ < 2 ^ (j + k + 1) * ((ratio x.magnitude).2 * (ratio y.magnitude).2) :=
          Nat.mul_lt_mul_of_pos_right (Nat.pow_lt_pow_right Nat.one_lt_two (by omega))
            (Nat.mul_pos hpos hpos')
  have hlt := nearest_lt_infinite (Nat.ne_of_gt (Nat.mul_pos hpos hpos')) h hproduct
  simp [mul, isNaN, isInfinite, hx', hy', Nat.ne_of_lt hlt]

theorem isInfinite_mul_ofNat {a b j k : Nat} (ha : a < 2 ^ j) (hb : b < 2 ^ k)
    (h : j + k < 1023) : ((ofNat a).mul (ofNat b)).isInfinite = false :=
  mul_isInfinite (nearest_one_le ha) (nearest_one_le hb) h

end ProgramGuide.Binary64
