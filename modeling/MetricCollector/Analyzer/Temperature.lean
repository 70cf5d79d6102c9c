import MetricCollector.Analyzer.Readings

/-!
# The temperature of a GPU

The sixth branch of `GPUThreshold` asks `GPUTemperatureAnalysis` about a
temperature above its limit.  There `0` says that the temperature is normal, but
the threshold returns `0` for a degradation.

* `gpuThreshold_of_reachesTemperature` is the verdict of that branch.
* `temperature_inverted`: it is the opposite of what it should be on every
  sample that gets there.
-/

namespace MetricCollector.Analyzer

open GoLib Grpcs

/-- The chain of `GPUThreshold` gets to the temperature and stops there. -/
structure ReachesTemperature (config : Config) (aver : GPUMetric) (curr : GrpcGPU) : Prop where
  below : ∀ f ∈ [GPUField.fanSpeed, .memory, .rx, .tx, .power], ¬ GPUExceeds config aver curr f
  above : GPUExceeds config aver curr .temp

/-- A sample with another temperature. -/
def heated (curr : GrpcGPU) (current : Int64) : GrpcGPU :=
  { curr with grpcGPUtemp := { curr.grpcGPUtemp with current := current } }

section Temperature

variable {config : Config} {aver : GPUMetric} {curr : GrpcGPU}

theorem ReachesTemperature.first (h : ReachesTemperature config aver curr) :
    First (GPUExceeds config aver curr) .temp GPUField.all := by
  have hskip : ∀ fs gs, (∀ f ∈ fs, ¬ GPUExceeds config aver curr f) →
      First (GPUExceeds config aver curr) .temp gs →
      First (GPUExceeds config aver curr) .temp (fs ++ gs) := by
    intro fs gs hfs hgs
    induction fs with
    | nil => exact hgs
    | cons f fs ih =>
        refine (first_cons_of_neg (hfs f List.mem_cons_self)).mpr (ih ?_)
        exact fun g hg => hfs g (List.mem_cons_of_mem f hg)
  exact hskip _ [.temp, .util] h.below ((first_cons_of_pos h.above).mpr rfl)

/-- A hotter GPU gets there too. -/
theorem ReachesTemperature.heated (h : ReachesTemperature config aver curr) {current : Int64}
    (hrise : curr.grpcGPUtemp.current ≤ current) :
    ReachesTemperature config aver (heated curr current) where
  below f hf := by
    have hbelow := h.below f hf
    cases f
    case temp => exact absurd hf (by decide)
    all_goals exact hbelow
  above := by
    rcases h.above with ⟨limit, hlimit, hlt⟩
    exact ⟨limit, hlimit, Int64.lt_of_lt_of_le hlt hrise⟩

theorem gpuTemperatureAnalysis_eq_zero_iff :
    gpuTemperatureAnalysis curr = 0 ↔ curr.grpcGPUtemp.current < curr.grpcGPUtemp.maxOperating := by
  unfold gpuTemperatureAnalysis
  by_cases hcool : curr.grpcGPUtemp.current < curr.grpcGPUtemp.maxOperating
  · rw [if_pos hcool]
    exact iff_of_true rfl hcool
  · rw [if_neg hcool]
    refine iff_of_false ?_ hcool
    split_ifs
    · decide
    · decide

/-- A temperature above its limit is a degradation if it is normal. -/
theorem gpuThreshold_of_reachesTemperature (h : ReachesTemperature config aver curr) :
    gpuThreshold config aver curr =
      .ok (if curr.grpcGPUtemp.current < curr.grpcGPUtemp.maxOperating then 0 else 1) := by
  have hverdict : gpuVerdict aver curr .temp =
      if curr.grpcGPUtemp.current < curr.grpcGPUtemp.maxOperating then 0 else 1 :=
    if_congr gpuTemperatureAnalysis_eq_zero_iff rfl rfl
  rw [gpuThreshold_eq, ← hverdict]
  exact firstAbove_of_first h.first

/-- On no sample that gets to the temperature is the verdict a degradation just
when the temperature is at least the operating maximum, and every degradation
there is taken back by a higher temperature. -/
theorem temperature_inverted (h : ReachesTemperature config aver curr) :
    ¬(gpuThreshold config aver curr = .ok 0 ↔
        curr.grpcGPUtemp.maxOperating ≤ curr.grpcGPUtemp.current) ∧
      (gpuThreshold config aver curr = .ok 0 →
        ∃ current, curr.grpcGPUtemp.current < current ∧
          gpuThreshold config aver (heated curr current) = .ok 1) := by
  have hverdict := gpuThreshold_of_reachesTemperature h
  by_cases hcool : curr.grpcGPUtemp.current < curr.grpcGPUtemp.maxOperating
  · rw [if_pos hcool] at hverdict
    refine ⟨?_, ?_⟩
    · intro hiff
      exact Int64.not_le.mpr hcool (hiff.mp hverdict)
    · intro _
      refine ⟨curr.grpcGPUtemp.maxOperating, hcool, ?_⟩
      rw [gpuThreshold_of_reachesTemperature (h.heated (Int64.le_of_lt hcool))]
      exact congrArg Except.ok (if_neg Int64.lt_irrefl)
  · rw [if_neg hcool] at hverdict
    have hhealthy : ¬gpuThreshold config aver curr = .ok 0 := by
      rw [hverdict]
      decide
    refine ⟨?_, fun hdegraded => absurd hdegraded hhealthy⟩
    intro hiff
    exact hhealthy (hiff.mpr (Int64.not_lt.mp hcool))

end Temperature

/-- An otherwise idle GPU at thirty degrees. -/
def coolGPU : GrpcGPU where
  grpcGPUtemp := { current := 30, threshold := 90, maxOperating := 80 }

/-- Histories of twenty-five rows. -/
def rowsOf25 : Config where
  countNumber := 25
  sqrt _ := 5

theorem reachesTemperature_coolGPU :
    ReachesTemperature rowsOf25 {} coolGPU := by
  have hdiv : truncInt64 rowsOf25.sqrtCount ≠ 0 := by decide +kernel
  constructor
  · intro f hf habove
    have hlt := (above_iff_of_ne hdiv).mp habove
    clear habove
    revert f
    decide +kernel
  · exact (above_iff_of_ne hdiv).mpr (by decide +kernel)

/-- The history says that zero degrees are usual. -/
theorem temperature_inverted_on_cool_gpu :
    ¬(gpuThreshold rowsOf25 {} coolGPU = .ok 0 ↔
        coolGPU.grpcGPUtemp.maxOperating ≤ coolGPU.grpcGPUtemp.current) ∧
      (gpuThreshold rowsOf25 {} coolGPU = .ok 0 →
        ∃ current, coolGPU.grpcGPUtemp.current < current ∧
          gpuThreshold rowsOf25 {} (heated coolGPU current) = .ok 1) :=
  temperature_inverted reachesTemperature_coolGPU

/-- It is degraded fifty degrees below its operating maximum. -/
theorem cool_gpu_degraded :
    ReachesTemperature rowsOf25 {} coolGPU ∧
      gpuThreshold rowsOf25 {} coolGPU = .ok 0 ∧
      ¬coolGPU.grpcGPUtemp.maxOperating ≤ coolGPU.grpcGPUtemp.current :=
  ⟨reachesTemperature_coolGPU, gpuThreshold_of_reachesTemperature reachesTemperature_coolGPU,
    by decide⟩

end MetricCollector.Analyzer
