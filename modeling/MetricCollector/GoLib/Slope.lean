import Mathlib.Algebra.BigOperators.Intervals
import Mathlib.Algebra.Order.BigOperators.Ring.Finset
import Mathlib.Algebra.Order.Field.Basic
import Mathlib.Tactic.FieldSimp
import Mathlib.Tactic.Linarith
import Mathlib.Tactic.LinearCombination
import Mathlib.Tactic.Ring

/-!
# The sign of a least-squares slope

For two finite sequences, `pairSum` is the sum over all pairs of positions of
the products of their differences.  It is `n` times the sum of products around
any centre of the second sequence, as long as the first one is centred at its
mean: `card_mul_centredSum`.

`slope_pos_iff` follows: the quotient that defines the least-squares slope is
positive exactly when `pairSum` is, whichever value the second sequence was
centred at.
-/

namespace GoLib.Slope

open Finset

section Ring

variable {K : Type} [CommRing K]

/-- The products of differences, over the pairs of positions below `n`. -/
def pairSum (x y : ℕ → K) (n : ℕ) : K :=
  ∑ j ∈ range n, ∑ i ∈ range j, (x j - x i) * (y j - y i)

/-- The products of deviations, from `m` on one side and from `c` on the other. -/
def centredSum (x y : ℕ → K) (m c : K) (n : ℕ) : K :=
  ∑ i ∈ range n, (y i - c) * (x i - m)

theorem pairSum_succ (x y : ℕ → K) (n : ℕ) :
    pairSum x y (n + 1) = pairSum x y n + ∑ i ∈ range n, (x n - x i) * (y n - y i) :=
  sum_range_succ _ n

/-- The pairs of a new position with the old ones. -/
theorem sum_pairs (x y : ℕ → K) (a b : K) (n : ℕ) :
    ∑ i ∈ range n, (a - x i) * (b - y i) =
      n * (a * b) - a * (∑ i ∈ range n, y i) - b * (∑ i ∈ range n, x i) +
        ∑ i ∈ range n, x i * y i := by
  induction n with
  | zero => simp
  | succ n ih =>
      rw [sum_range_succ, ih, sum_range_succ y, sum_range_succ x,
        sum_range_succ fun i => x i * y i]
      push_cast
      ring

theorem pairSum_eq (x y : ℕ → K) (n : ℕ) :
    pairSum x y n =
      n * (∑ i ∈ range n, x i * y i) - (∑ i ∈ range n, x i) * ∑ i ∈ range n, y i := by
  induction n with
  | zero => simp [pairSum]
  | succ n ih =>
      rw [pairSum_succ, ih, sum_pairs, sum_range_succ y, sum_range_succ x,
        sum_range_succ fun i => x i * y i]
      push_cast
      ring

theorem centredSum_eq (x y : ℕ → K) (m c : K) (n : ℕ) :
    centredSum x y m c n =
      (∑ i ∈ range n, x i * y i) - m * (∑ i ∈ range n, y i) - c * (∑ i ∈ range n, x i) +
        n * (c * m) := by
  induction n with
  | zero => simp [centredSum]
  | succ n ih =>
      rw [centredSum, sum_range_succ, ← centredSum, ih, sum_range_succ y, sum_range_succ x,
        sum_range_succ fun i => x i * y i]
      push_cast
      ring

/-- The centre of the second sequence cancels when the first one is centred at
its mean. -/
theorem card_mul_centredSum {x : ℕ → K} {m : K} {n : ℕ} (hmean : n * m = ∑ i ∈ range n, x i)
    (y : ℕ → K) (c : K) : n * centredSum x y m c n = pairSum x y n := by
  rw [centredSum_eq, pairSum_eq, ← hmean]
  ring

theorem pairSum_of_le_one (x y : ℕ → K) {n : ℕ} (hn : n ≤ 1) : pairSum x y n = 0 := by
  rcases Nat.le_one_iff_eq_zero_or_eq_one.mp hn with rfl | rfl
  · rfl
  · rw [pairSum, sum_range_one, range_zero, sum_empty]

/-- One position is at its own mean. -/
theorem centredSum_of_le_one {x : ℕ → K} {m : K} {n : ℕ} (hn : n ≤ 1)
    (hmean : n * m = ∑ i ∈ range n, x i) (y : ℕ → K) (c : K) : centredSum x y m c n = 0 := by
  have hnum := card_mul_centredSum hmean y c
  rw [pairSum_of_le_one x y hn] at hnum
  rcases Nat.le_one_iff_eq_zero_or_eq_one.mp hn with rfl | rfl
  · rw [centredSum, range_zero, sum_empty]
  · rwa [Nat.cast_one, one_mul] at hnum

end Ring

section Field

variable {K : Type} [Field K] [LinearOrder K] [IsStrictOrderedRing K]

/-- The spread of a sequence that takes two values is positive. -/
theorem pairSum_self_pos {x : ℕ → K} (hx : StrictMono x) {n : ℕ} (hn : 2 ≤ n) :
    0 < pairSum x x n := by
  have hnonneg : ∀ j ∈ range n, 0 ≤ ∑ i ∈ range j, (x j - x i) * (x j - x i) :=
    fun j _ => sum_nonneg fun i _ => mul_self_nonneg _
  have hstep : 0 < x 1 - x 0 := sub_pos.mpr (hx (by decide))
  have hpos : 0 < ∑ i ∈ range 1, (x 1 - x i) * (x 1 - x i) := by
    rw [sum_range_one]
    exact mul_pos hstep hstep
  exact sum_pos' hnonneg ⟨1, mem_range.mpr (by omega), hpos⟩

/-- The least-squares slope is positive if `pairSum` is, for every centre of the
second sequence. -/
theorem slope_pos_iff {x : ℕ → K} (hx : StrictMono x) {m : K} {n : ℕ}
    (hmean : n * m = ∑ i ∈ range n, x i) (y : ℕ → K) (c : K) :
    0 < centredSum x y m c n / centredSum x x m m n ↔ 0 < pairSum x y n := by
  have hnum := card_mul_centredSum hmean y c
  have hden := card_mul_centredSum hmean x m
  rcases Nat.lt_or_ge 1 n with hn | hn
  · have hcard : (0 : K) < n := Nat.cast_pos.mpr (by omega)
    have hspread : 0 < centredSum x x m m n := by
      have hpos := pairSum_self_pos hx hn
      rw [← hden] at hpos
      exact (mul_pos_iff_of_pos_left hcard).mp hpos
    rw [div_pos_iff_of_pos_right hspread, ← hnum, mul_pos_iff_of_pos_left hcard]
  · rw [centredSum_of_le_one hn hmean, zero_div, pairSum_of_le_one x y hn]

end Field

end GoLib.Slope
