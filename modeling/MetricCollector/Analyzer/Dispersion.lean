import MetricCollector.Analyzer.Columns
import MetricCollector.GoLib.FlipBit
import Mathlib.Algebra.BigOperators.Ring.Finset

/-!
# The dispersion fields

A `StDev` field is meant to be a sample variance: the squared deviations from
the average, over the number of rows less one.  The integer columns add up
`(x - aver) ^ 2`, and in Go `^` is exclusive or.

* `isVariance_iff` says for which columns the field is the variance all the
  same.
* `nodeDisperses_iff`, `gpuDisperses_iff` and `podDisperses_iff` put the columns
  of a record together.  A node's storage deviations are added to its
  `StDevNetworkTx`, and a pod's CPU deviations are squared.
* `statistics_disperse_iff` is all three.
-/

namespace MetricCollector.Analyzer

open GoLib Influx

/-! ## One column -/

/-- The mean of a column, toward zero. -/
def columnMean (column : List Int64) : ℤ := (column.map Int64.toInt).sum.tdiv column.length

/-- The deviations of a column from its mean. -/
def deviations (column : List Int64) : List ℤ :=
  column.map fun x => x.toInt - columnMean column

@[simp] theorem length_deviations (column : List Int64) :
    (deviations column).length = column.length :=
  List.length_map _

/-- A column with a value for each of `countNumber` rows, whose sum does not
overflow. -/
structure FullColumn (config : Config) (column : List Int64) : Prop where
  count : (column.length : ℤ) = config.countNumber.toInt
  low : -2 ^ 63 ≤ (column.map Int64.toInt).sum
  high : (column.map Int64.toInt).sum < 2 ^ 63

/-- The field is the sample variance of the values around the average, and not
negative. -/
structure IsVariance (config : Config) (values : List ℚ) (aver stDev : ℚ) : Prop where
  eq : stDev = (values.map fun x => (x - aver) * (x - aver)).sum / (float64 config.countNumber - 1)
  nonneg : 0 ≤ stDev

section Column

variable {config : Config} {column : List Int64}

theorem degrees_pos (hcount : 2 ≤ config.countNumber) : 0 < config.degrees := by
  have htwo : (2 : ℤ) ≤ config.countNumber.toInt := Int64.le_iff_toInt_le.mp hcount
  have hcast : (2 : ℚ) ≤ config.countNumber.toInt := by exact_mod_cast htwo
  unfold Config.degrees float64
  linarith

theorem countNumber_ne_zero (hcount : 2 ≤ config.countNumber) : config.countNumber ≠ 0 := by
  intro hzero
  rw [hzero] at hcount
  exact absurd hcount (by decide)

/-- The average that the passes compute. -/
theorem toInt_average (hcount : 2 ≤ config.countNumber) (hfull : FullColumn config column) :
    (column.sum / config.countNumber).toInt = columnMean column := by
  have hne : config.countNumber ≠ -1 := by
    intro hneg
    rw [hneg] at hcount
    exact absurd hcount (by decide)
  rw [Int64.toInt_div_of_ne_right _ _ hne, toInt_sum hfull.low hfull.high, ← hfull.count]
  rfl

/-- The term of a second pass is the flip of the deviation, in 64 bits. -/
theorem deviation_eq (x aver : Int64) :
    deviation x aver = flipTwo ((x.toInt - aver.toInt).bmod (2 ^ 64)) := by
  unfold deviation float64
  rw [toInt_xor_two, Int64.toInt_sub]

theorem dispersion_eq (hcount : 2 ≤ config.countNumber) (hfull : FullColumn config column) :
    dispersion column (column.sum / config.countNumber) =
      (((deviations column).map fun d => flipTwo (d.bmod (2 ^ 64))).sum : ℤ) := by
  have haver := toInt_average hcount hfull
  unfold dispersion deviations
  rw [Int.cast_list_sum, List.map_map, List.map_map]
  congr 1
  apply List.map_congr_left
  intro x _
  rw [deviation_eq, haver]
  rfl

/-- The sum that a variance divides. -/
theorem sum_squares_eq (hcount : 2 ≤ config.countNumber) (hfull : FullColumn config column) :
    ((column.map float64).map fun x => (x - float64 (column.sum / config.countNumber)) *
        (x - float64 (column.sum / config.countNumber))).sum =
      (((deviations column).map fun d => d * d).sum : ℤ) := by
  have haver := toInt_average hcount hfull
  unfold deviations
  rw [Int.cast_list_sum, List.map_map, List.map_map, List.map_map]
  congr 1
  apply List.map_congr_left
  intro x _
  simp only [Function.comp_apply, float64, haver]
  push_cast
  rfl

/-- The dispersion of a column, with `c` added for each row, is its variance
just when its deviations are balanced. -/
theorem isVariance_iff (hcount : 2 ≤ config.countNumber) (hfull : FullColumn config column)
    {c : ℤ} (hc : c ≤ 2) :
    IsVariance config (column.map float64) (float64 (column.sum / config.countNumber))
        ((dispersion column (column.sum / config.countNumber) + c * column.length) /
          config.degrees) ↔
      Balanced c (deviations column) := by
  have hdegrees := degrees_pos hcount
  have hlen : (deviations column).length < 2 ^ 63 := by
    have hlt := config.countNumber.toInt_lt
    rw [length_deviations]
    have hsame := hfull.count
    omega
  have hcast : dispersion column (column.sum / config.countNumber) + c * column.length =
      (((deviations column).map fun d => flipTwo (d.bmod (2 ^ 64))).sum +
        c * (deviations column).length : ℤ) := by
    rw [dispersion_eq hcount hfull, length_deviations]
    push_cast
    rfl
  have hsquares := sum_squares_eq hcount hfull
  rw [← sum_flip_bmod_iff hc hlen]
  constructor
  · intro h
    have heq := h.eq
    rw [hcast, hsquares] at heq
    have hnum := (div_left_inj' hdegrees.ne').mp heq
    exact_mod_cast hnum
  · intro heq
    have hvariance : (dispersion column (column.sum / config.countNumber) + c * column.length) /
        config.degrees = (((deviations column).map fun d => d * d).sum : ℤ) / config.degrees := by
      rw [hcast, heq]
    constructor
    · rw [hvariance, hsquares]
      rfl
    · rw [hvariance]
      apply div_nonneg _ hdegrees.le
      have hnonneg : 0 ≤ ((deviations column).map fun d => d * d).sum := by
        apply List.sum_nonneg
        intro x hx
        rcases List.mem_map.mp hx with ⟨d, -, rfl⟩
        exact mul_self_nonneg d
      exact_mod_cast hnonneg

/-- Zero is the variance of the columns that do not vary. -/
theorem isVariance_zero_iff (hcount : 2 ≤ config.countNumber)
    (hfull : FullColumn config column) :
    IsVariance config (column.map float64) (float64 (column.sum / config.countNumber))
        (0 / config.degrees) ↔ ∀ d ∈ deviations column, d = 0 := by
  have hdegrees := degrees_pos hcount
  have hsquares := sum_squares_eq hcount hfull
  constructor
  · intro h d hd
    have heq := h.eq
    rw [hsquares] at heq
    have hnum := (div_left_inj' hdegrees.ne').mp heq
    have hzero : ((deviations column).map fun d => d * d).sum = 0 := by exact_mod_cast hnum.symm
    have hnonneg : ∀ x ∈ (deviations column).map fun d : ℤ => d * d, 0 ≤ x := by
      intro x hx
      rcases List.mem_map.mp hx with ⟨e, -, rfl⟩
      exact mul_self_nonneg e
    have hle := List.single_le_sum hnonneg _ (List.mem_map_of_mem hd)
    rw [hzero] at hle
    exact mul_self_eq_zero.mp (le_antisymm hle (mul_self_nonneg d))
  · intro h
    have hzero : ((deviations column).map fun d => d * d).sum = 0 := by
      apply List.sum_eq_zero
      intro x hx
      rcases List.mem_map.mp hx with ⟨d, hd, rfl⟩
      rw [h d hd, mul_zero]
    constructor
    · rw [hsquares, hzero]
      rfl
    · rw [zero_div]

/-- The flips of a column that does not vary are two for each row. -/
theorem dispersion_of_steady (hcount : 2 ≤ config.countNumber)
    (hfull : FullColumn config column) (hsteady : ∀ d ∈ deviations column, d = 0) :
    dispersion column (column.sum / config.countNumber) = 2 * column.length := by
  have hflips : ((deviations column).map fun d => flipTwo (d.bmod (2 ^ 64))) =
      List.replicate column.length 2 := by
    rw [List.eq_replicate_iff, List.length_map, length_deviations]
    refine ⟨rfl, ?_⟩
    intro x hx
    rcases List.mem_map.mp hx with ⟨d, hd, rfl⟩
    rw [hsteady d hd]
    rfl
  rw [dispersion_eq hcount hfull, hflips, List.sum_replicate, nsmul_eq_mul, mul_comm]
  push_cast
  rfl

end Column

/-! ## Nodes -/

/-- The `StDev` fields of the record are the variances of the columns. -/
def NodeDisperses (config : Config) (samples : List NodeSample) (aver : NodeMetric) : Prop :=
  ∀ f, IsVariance config ((nodeColumn samples f).map float64) (float64 (aver.of f).aver)
    (aver.of f).stDev

/-- The storage column does not vary, and the deviations of the others are
balanced, those of `networkTx` with two more for each row. -/
structure NodeBalanced (samples : List NodeSample) : Prop where
  cpu : Balanced 0 (deviations (nodeColumn samples .cpu))
  memory : Balanced 0 (deviations (nodeColumn samples .memory))
  networkRx : Balanced 0 (deviations (nodeColumn samples .networkRx))
  networkTx : Balanced 2 (deviations (nodeColumn samples .networkTx))
  storage : ∀ d ∈ deviations (nodeColumn samples .storage), d = 0

section Records

variable {config : Config}

/-- A column whose dispersion nothing is added to. -/
theorem isVariance_dispersion_iff {column : List Int64} (hcount : 2 ≤ config.countNumber)
    (hfull : FullColumn config column) :
    IsVariance config (column.map float64) (float64 (column.sum / config.countNumber))
        (dispersion column (column.sum / config.countNumber) / config.degrees) ↔
      Balanced 0 (deviations column) := by
  have hiff := isVariance_iff hcount hfull (c := 0) (by decide)
  rwa [Int.cast_zero, zero_mul, add_zero] at hiff

theorem nodeDisperses_iff {samples : List NodeSample} (hcount : 2 ≤ config.countNumber)
    (hfull : ∀ f, FullColumn config (nodeColumn samples f)) :
    NodeDisperses config samples ((nodeSums config samples).scale config) ↔
      NodeBalanced samples := by
  have hstorage := isVariance_zero_iff hcount (hfull .storage)
  have hsteady : (∀ d ∈ deviations (nodeColumn samples .storage), d = 0) →
      (IsVariance config ((nodeColumn samples .networkTx).map float64)
          (float64 ((nodeColumn samples .networkTx).sum / config.countNumber))
          ((nodeSums config samples).stDevNetworkTx / config.degrees) ↔
        Balanced 2 (deviations (nodeColumn samples .networkTx))) := by
    intro hzero
    have hlength : (nodeColumn samples .storage).length =
        (nodeColumn samples .networkTx).length := by
      rw [nodeColumn, nodeColumn, List.length_map, List.length_map]
    have hsum : (nodeSums config samples).stDevNetworkTx =
        dispersion (nodeColumn samples .networkTx)
            ((nodeColumn samples .networkTx).sum / config.countNumber) +
          ((2 : ℤ) : ℚ) * (nodeColumn samples .networkTx).length := by
      rw [← hlength]
      exact congrArg _ (dispersion_of_steady hcount (hfull .storage) hzero)
    rw [hsum]
    exact isVariance_iff hcount (hfull .networkTx) (le_refl 2)
  constructor
  · intro h
    have hzero := hstorage.mp (h .storage)
    exact {
      cpu := (isVariance_dispersion_iff hcount (hfull .cpu)).mp (h .cpu)
      memory := (isVariance_dispersion_iff hcount (hfull .memory)).mp (h .memory)
      networkRx := (isVariance_dispersion_iff hcount (hfull .networkRx)).mp (h .networkRx)
      networkTx := (hsteady hzero).mp (h .networkTx)
      storage := hzero }
  · intro h f
    cases f with
    | cpu => exact (isVariance_dispersion_iff hcount (hfull .cpu)).mpr h.cpu
    | memory => exact (isVariance_dispersion_iff hcount (hfull .memory)).mpr h.memory
    | networkRx => exact (isVariance_dispersion_iff hcount (hfull .networkRx)).mpr h.networkRx
    | networkTx => exact (hsteady h.storage).mpr h.networkTx
    | storage => exact hstorage.mpr h.storage

/-! ## GPUs -/

/-- The `StDev` fields of the record are the variances of the columns. -/
def GPUDisperses (config : Config) (samples : List GPUSample) (aver : GPUMetric) : Prop :=
  ∀ f, IsVariance config ((gpuColumn samples f).map float64) (float64 (aver.of f).aver)
    (aver.of f).stDev

theorem gpuDisperses_iff {samples : List GPUSample} (hcount : 2 ≤ config.countNumber)
    (hfull : ∀ f, FullColumn config (gpuColumn samples f)) :
    GPUDisperses config samples ((gpuSums config samples).scale config) ↔
      ∀ f, Balanced 0 (deviations (gpuColumn samples f)) := by
  refine forall_congr' fun f => ?_
  rw [← isVariance_dispersion_iff hcount (hfull f)]
  cases f <;> rfl

/-! ## Pods -/

/-- The values of a column. -/
def podValues (samples : List PodSample) : PodField → List ℚ
  | .cpu => podCPUColumn samples
  | f => (podColumn samples f).map float64

/-- The `StDev` fields of the record are the variances of the columns. -/
def PodDisperses (config : Config) (samples : List PodSample) (aver : PodMetric) : Prop :=
  ∀ f, IsVariance config (podValues samples f) (aver.of f).aver (aver.of f).stDev

/-- The CPU deviations are squares. -/
theorem isVariance_podCPU (hcount : 2 ≤ config.countNumber) (samples : List PodSample) :
    IsVariance config (podCPUColumn samples) (podSums config samples).averCPU
      ((podSums config samples).stDevCPU / config.degrees) where
  eq := by
    show ((podCPUColumn samples).map fun x => (x - (podSums config samples).averCPU) ^ 2).sum /
      config.degrees = _
    simp only [sq]
    rfl
  nonneg := by
    apply div_nonneg _ (degrees_pos hcount).le
    apply List.sum_nonneg
    intro x hx
    rcases List.mem_map.mp hx with ⟨y, -, rfl⟩
    exact sq_nonneg _

theorem podDisperses_iff {samples : List PodSample} (hcount : 2 ≤ config.countNumber)
    (hfull : ∀ f, f ≠ .cpu → FullColumn config (podColumn samples f)) :
    PodDisperses config samples ((podSums config samples).scale config) ↔
      ∀ f, f ≠ .cpu → Balanced 0 (deviations (podColumn samples f)) := by
  refine forall_congr' fun f => ?_
  by_cases hf : f = .cpu
  · rw [hf]
    exact iff_of_true (isVariance_podCPU hcount samples) fun h => absurd rfl h
  · rw [← isVariance_dispersion_iff hcount (hfull f hf), imp_iff_right hf]
    cases f
    case cpu => exact absurd rfl hf
    all_goals rfl

/-! ## The three functions -/

/-- A `nodemetric` history of `countNumber` rows, without overflow. -/
structure NodeHistory (config : Config) (rows : List (List Cell)) (samples : List NodeSample) :
    Prop where
  read : rows.mapM nodeSample = .ok samples
  full : ∀ f, FullColumn config (nodeColumn samples f)

/-- A `gpumetric` history. -/
structure GPUHistory (config : Config) (rows : List (List Cell)) (samples : List GPUSample) :
    Prop where
  read : rows.mapM gpuSample = .ok samples
  full : ∀ f, FullColumn config (gpuColumn samples f)

/-- A `podmetric` history. -/
structure PodHistory (config : Config) (rows : List (List Cell)) (samples : List PodSample) :
    Prop where
  read : rows.mapM podSample = .ok samples
  full : ∀ f, f ≠ .cpu → FullColumn config (podColumn samples f)

/-- The `StDev` fields of the three records are sample variances just when the
columns are balanced. -/
theorem statistics_disperse_iff (hcount : 2 ≤ config.countNumber)
    {nodeRows gpuRows podRows : List (List Cell)} {nodes : List NodeSample}
    {gpus : List GPUSample} {pods : List PodSample} (hnode : NodeHistory config nodeRows nodes)
    (hgpu : GPUHistory config gpuRows gpus) (hpod : PodHistory config podRows pods) :
    (∃ aver, nodeStatistics config nodeRows = .ok aver ∧
        (NodeDisperses config nodes aver ↔ NodeBalanced nodes)) ∧
      (∃ aver, gpuStatistics config gpuRows = .ok aver ∧
        (GPUDisperses config gpus aver ↔ ∀ f, Balanced 0 (deviations (gpuColumn gpus f)))) ∧
      (∃ aver, podStatistics config podRows = .ok aver ∧
        (PodDisperses config pods aver ↔
          ∀ f, f ≠ .cpu → Balanced 0 (deviations (podColumn pods f)))) := by
  have hne := countNumber_ne_zero hcount
  refine ⟨?_, ?_, ?_⟩
  · exact ⟨_, nodeStatistics_eq hne hnode.read, nodeDisperses_iff hcount hnode.full⟩
  · exact ⟨_, gpuStatistics_eq hne hgpu.read, gpuDisperses_iff hcount hgpu.full⟩
  · exact ⟨_, podStatistics_eq hne hpod.read, podDisperses_iff hcount hpod.full⟩

end Records

/-- Histories of three rows. -/
def rowsOf3 : Config where
  countNumber := 3
  sqrt _ := 0

/-- Three rows that hold consecutive numbers. -/
def risingRows : List (List Cell) :=
  [List.replicate 14 (.number "4"), List.replicate 14 (.number "5"),
    List.replicate 14 (.number "6")]

/-- Every column of them is balanced, but not with two more for each row. -/
theorem statistics_disperse_on_rising_rows :
    (∃ aver, nodeStatistics rowsOf3 risingRows = .ok aver ∧
        (NodeDisperses rowsOf3 [⟨4, 4, 4, 4, 4⟩, ⟨5, 5, 5, 5, 5⟩, ⟨6, 6, 6, 6, 6⟩] aver ↔
          NodeBalanced [⟨4, 4, 4, 4, 4⟩, ⟨5, 5, 5, 5, 5⟩, ⟨6, 6, 6, 6, 6⟩])) ∧
      (∃ aver, gpuStatistics rowsOf3 risingRows = .ok aver ∧
        GPUDisperses rowsOf3
          [⟨4, 4, 4, 4, 4, 4, 4⟩, ⟨5, 5, 5, 5, 5, 5, 5⟩, ⟨6, 6, 6, 6, 6, 6, 6⟩] aver) ∧
      (∃ aver, podStatistics rowsOf3 risingRows = .ok aver ∧
        PodDisperses rowsOf3
          [⟨4, 4, 4, 4, 4, 4⟩, ⟨5, 5, 5, 5, 5, 5⟩, ⟨6, 6, 6, 6, 6, 6⟩] aver) := by
  have hnode : NodeHistory rowsOf3 risingRows
      [⟨4, 4, 4, 4, 4⟩, ⟨5, 5, 5, 5, 5⟩, ⟨6, 6, 6, 6, 6⟩] := by
    refine ⟨by decide +kernel, fun f => ?_⟩
    cases f <;> exact ⟨by decide, by decide, by decide⟩
  have hgpu : GPUHistory rowsOf3 risingRows
      [⟨4, 4, 4, 4, 4, 4, 4⟩, ⟨5, 5, 5, 5, 5, 5, 5⟩, ⟨6, 6, 6, 6, 6, 6, 6⟩] := by
    refine ⟨by decide +kernel, fun f => ?_⟩
    cases f <;> exact ⟨by decide, by decide, by decide⟩
  have hpod : PodHistory rowsOf3 risingRows
      [⟨4, 4, 4, 4, 4, 4⟩, ⟨5, 5, 5, 5, 5, 5⟩, ⟨6, 6, 6, 6, 6, 6⟩] := by
    refine ⟨by decide +kernel, fun f hf => ?_⟩
    cases f
    case cpu => exact absurd rfl hf
    all_goals exact ⟨by decide, by decide, by decide⟩
  rcases @statistics_disperse_iff rowsOf3 (by decide) _ _ _ _ _ _ hnode hgpu hpod with
    ⟨hnodes, ⟨gpuAver, hgpuRun, hgpus⟩, podAver, hpodRun, hpods⟩
  refine ⟨hnodes, ⟨gpuAver, hgpuRun, hgpus.mpr ?_⟩, podAver, hpodRun, hpods.mpr ?_⟩
  · intro f
    cases f <;> decide +kernel
  · intro f hf
    cases f
    case cpu => exact absurd rfl hf
    all_goals decide +kernel

/-- Three rows that hold the same number: every variance is zero, and every field
of the GPU record is three. -/
theorem steady_rows_disperse :
    GPUHistory rowsOf3 (List.replicate 3 (List.replicate 14 (.number "5")))
        (List.replicate 3 ⟨5, 5, 5, 5, 5, 5, 5⟩) ∧
      ∃ aver, gpuStatistics rowsOf3 (List.replicate 3 (List.replicate 14 (.number "5"))) =
          .ok aver ∧ aver.averFanSpeed = 5 ∧ aver.stDevFanSpeed = 3 ∧
        ¬GPUDisperses rowsOf3 (List.replicate 3 ⟨5, 5, 5, 5, 5, 5, 5⟩) aver := by
  have hread : (List.replicate 3 (List.replicate 14 (Cell.number "5"))).mapM gpuSample =
      .ok (List.replicate 3 ⟨5, 5, 5, 5, 5, 5, 5⟩) := by decide +kernel
  refine ⟨⟨hread, ?_⟩, _, gpuStatistics_eq (by decide) hread, by decide +kernel,
    by decide +kernel, ?_⟩
  · intro f
    cases f <;> exact ⟨by decide, by decide, by decide⟩
  · intro h
    have hfan := (h .fanSpeed).eq
    revert hfan
    decide +kernel

end MetricCollector.Analyzer
