import MetricCollector.Analyzer.Threshold
import MetricCollector.GoLib.Slope

/-!
# The trend test

`GetTrands` sums deviations from a centre that its caller has truncated to an
integer, over an index that runs against the list.  It is the sign of the
least-squares slope in chronological order all the same.

* `chronological` is the history, oldest value first.
* `getTrands_eq` has it that the two loops are the sums of `GoLib.Slope`.
* `getTrands_sign` is the test without its centre.
-/

namespace MetricCollector.Analyzer

open GoLib Slope

/-- The value at a position of the history, oldest first, of data that is
newest first. -/
def chronological (data : List ℚ) (i : ℕ) : ℚ := data.getD (data.length - 1 - i) 0

/-- The pairwise form of the slope. -/
def slopeSum (data : List ℚ) : ℚ :=
  ∑ j ∈ Finset.range data.length, ∑ i ∈ Finset.range j,
    ((j : ℚ) - i) * (chronological data j - chronological data i)

/-- The mean position, as `GetTrands` computes it. -/
def meanPosition (n : ℕ) : ℚ := (∑ i ∈ Finset.range n, (i : ℚ)) / n

theorem card_mul_meanPosition (n : ℕ) : n * meanPosition n = ∑ i ∈ Finset.range n, (i : ℚ) := by
  rcases Nat.eq_zero_or_pos n with rfl | hn
  · simp
  · have hcard : (n : ℚ) ≠ 0 := Nat.cast_ne_zero.mpr (by omega)
    rw [meanPosition, mul_div_cancel₀ _ hcard]

/-- The loops of `GetTrands` are centred sums. -/
theorem getTrands_eq (data : List ℚ) (average : ℚ) :
    getTrands data average = decide (0 <
      centredSum (fun i => (i : ℚ)) (chronological data) (meanPosition data.length) average
          data.length /
        centredSum (fun i => (i : ℚ)) (fun i => (i : ℚ)) (meanPosition data.length)
          (meanPosition data.length) data.length) := by
  have hindex : ∀ i : ℕ, data.length - i - 1 = data.length - 1 - i := fun i => by omega
  unfold getTrands
  simp only [hindex, sq]
  rfl

/-- `GetTrands` is the sign of the slope.  It does not depend on the average,
and is negative on less than two values. -/
theorem getTrands_sign (data : List ℚ) :
    (∀ average, getTrands data average = true ↔ 0 < slopeSum data) ∧
      (∀ average average', getTrands data average = getTrands data average') ∧
      (data.length ≤ 1 → ∀ average, getTrands data average = false) := by
  have hmono : StrictMono fun i : ℕ => (i : ℚ) := Nat.strictMono_cast
  have hsign : ∀ average, getTrands data average = true ↔ 0 < slopeSum data := by
    intro average
    rw [getTrands_eq, decide_eq_true_iff, slope_pos_iff hmono (card_mul_meanPosition _)]
    rfl
  refine ⟨hsign, ?_, ?_⟩
  · intro average average'
    rw [Bool.eq_iff_iff, hsign average, hsign average']
  · intro hshort average
    have hzero : slopeSum data = 0 := pairSum_of_le_one _ _ hshort
    rw [Bool.eq_false_iff, ne_eq, hsign average, hzero]
    exact lt_irrefl _

/-- A rise is seen from a centre far away. -/
example : getTrands [3, 1] 1000 = true ∧ slopeSum [3, 1] = 2 := by decide +kernel

end MetricCollector.Analyzer
