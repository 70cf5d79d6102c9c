import MetricCollector.Analyzer.Masking

/-!
# Alarms inside the confidence interval

The limit of a node or GPU metric is `aver * int64(stDev) / int64(sqrt(n))`,
where the interval of `PodThreshold` ends at `aver + z * stDev / sqrt(n)`.  The
first can be below the second, and a value between them raises an alarm although
it is inside the interval.

* `Average.Covered` says that no value of a metric is in between.
* `nodeNoFalseAlarm_iff` and `gpuNoFalseAlarm_iff` say that this is what it takes.
-/

namespace MetricCollector.Analyzer

open GoLib Grpcs

/-- The upper end of the interval of an integer metric. -/
def Average.bound (a : Average Int64) (config : Config) : ℚ :=
  float64 a.aver + config.margin a.stDev

/-- Every value above the limit is above the interval. -/
def Average.Covered (a : Average Int64) (config : Config) (frame : Frame) : Prop :=
  ∀ v, a.Exceeds config frame v → a.bound config < float64 v

/-- An alarm on a node means that some metric is above its interval. -/
def NodeNoFalseAlarm (config : Config) (aver : NodeMetric) (curr : GrpcNode) : Prop :=
  nodeThreshold config aver curr = .ok 0 →
    ∃ f, (aver.of f).bound config < float64 (nodeCurrent curr f)

/-- An alarm on a GPU that a trend test raised means that some metric other than
the temperature is above its interval. -/
def GPUNoFalseAlarm (config : Config) (aver : GPUMetric) (curr : GrpcGPU) : Prop :=
  gpuThreshold config aver curr = .ok 0 →
    (∃ f, f ≠ .temp ∧ First (GPUExceeds config aver curr) f GPUField.all) →
      ∃ f, f ≠ .temp ∧ (aver.of f).bound config < float64 (gpuCurrent curr f)

section Bound

variable {config : Config} {a : Average Int64}

theorem float64_lt {m n : Int64} : float64 m < float64 n ↔ m < n := by
  unfold float64
  rw [Int.cast_lt, Int64.lt_iff_toInt_lt]

/-- The least value is in no interval above zero. -/
theorem not_bound_lt_minValue (hsqrt : 0 < config.sqrtCount) (haver : 0 ≤ a.aver)
    (hdev : 0 ≤ a.stDev) : ¬ a.bound config < float64 Int64.minValue := by
  have hmargin := margin_nonneg hsqrt hdev
  have hpos : (0 : ℚ) ≤ float64 a.aver := by
    unfold float64
    exact_mod_cast Int64.le_iff_toInt_le.mp haver
  have hmin : float64 Int64.minValue < 0 := by decide +kernel
  unfold Average.bound
  intro hlt
  linarith

end Bound

/-! ## One high value -/

section Spike

variable {F : Type} [DecidableEq F] {config : Config} {frame : Frame}
  {average : F → Average Int64} {f : F} {v : Int64}

/-- All metrics are as low as they can be, but for one. -/
def spike (f : F) (v : Int64) (g : F) : Int64 := if g = f then v else Int64.minValue

/-- If that one is above its limit, it decides. -/
theorem first_spike {all : List F} (hf : f ∈ all) (hv : (average f).Exceeds config frame v) :
    First (Above config frame average (spike f v)) f all := by
  have honly : ∀ g, Above config frame average (spike f v) g ↔ g = f := by
    intro g
    unfold Above spike
    by_cases hg : g = f
    · rw [if_pos hg, hg]
      exact iff_of_true hv rfl
    · rw [if_neg hg]
      exact iff_of_false not_exceeds_minValue hg
  have hfirst := exists_first hf ((honly f).mpr rfl)
  rcases hfirst with ⟨g, hg⟩
  rwa [(honly g).mp hg.mem_and_holds.2] at hg

/-- If some metric is above its interval, it is that one. -/
theorem bound_lt_of_spike (hsqrt : 0 < config.sqrtCount)
    (haver : ∀ g, 0 ≤ (average g).aver ∧ 0 ≤ (average g).stDev) {g : F}
    (h : (average g).bound config < float64 (spike f v g)) :
    (average f).bound config < float64 v := by
  unfold spike at h
  by_cases hg : g = f
  · rwa [if_pos hg, hg] at h
  · rw [if_neg hg] at h
    exact absurd h (not_bound_lt_minValue hsqrt (haver g).1 (haver g).2)

end Spike

/-! ## When every alarm is above an interval -/

section Alarm

variable {config : Config}

/-- A node's alarms are all for a metric above its interval exactly when every
metric with a trend is covered. -/
theorem nodeNoFalseAlarm_iff (hsqrt : 0 < config.sqrtCount) {aver : NodeMetric}
    (haver : ∀ f, 0 ≤ (aver.of f).aver ∧ 0 ≤ (aver.of f).stDev) :
    (∀ curr, NodeNoFalseAlarm config aver curr) ↔
      ∀ f, (aver.of f).Trends → (aver.of f).Covered config .nodeThreshold := by
  constructor
  · intro h f htrend v hv
    have hcurrent : nodeCurrent (nodeAt (spike f v)) = spike f v :=
      funext (nodeCurrent_nodeAt (spike f v))
    have hfirst : First (NodeExceeds config aver (nodeAt (spike f v))) f NodeField.all := by
      rw [NodeExceeds, hcurrent]
      exact first_spike f.mem_all hv
    have hsome := h _ (nodeThreshold_eq_zero_iff.mpr ⟨f, hfirst, htrend⟩)
    rcases hsome with ⟨g, hg⟩
    rw [hcurrent] at hg
    exact bound_lt_of_spike hsqrt haver hg
  · intro h curr hzero
    have halarm := nodeThreshold_eq_zero_iff.mp hzero
    rcases halarm with ⟨f, hf, htrend⟩
    exact ⟨f, h f htrend _ hf.mem_and_holds.2⟩

/-- The same for the trend tests of a GPU. -/
theorem gpuNoFalseAlarm_iff (hsqrt : 0 < config.sqrtCount) {aver : GPUMetric}
    (haver : ∀ f, 0 ≤ (aver.of f).aver ∧ 0 ≤ (aver.of f).stDev) :
    (∀ curr, GPUNoFalseAlarm config aver curr) ↔
      ∀ f, f ≠ .temp → (aver.of f).Trends → (aver.of f).Covered config .gpuThreshold := by
  constructor
  · intro h f hf htrend v hv
    have hcurrent : gpuCurrent (gpuAt (spike f v)) = spike f v :=
      funext (gpuCurrent_gpuAt (spike f v))
    have hfirst : First (GPUExceeds config aver (gpuAt (spike f v))) f GPUField.all := by
      rw [GPUExceeds, hcurrent]
      exact first_spike f.mem_all hv
    have hverdict : gpuVerdict aver (gpuAt (spike f v)) f = 0 :=
      (gpuVerdict_eq_zero_iff hf).mpr htrend
    have hzero := gpuThreshold_eq_zero_iff.mpr ⟨f, hfirst, hverdict⟩
    have hsome := h _ hzero ⟨f, hf, hfirst⟩
    rcases hsome with ⟨g, -, hg⟩
    rw [hcurrent] at hg
    exact bound_lt_of_spike hsqrt haver hg
  · intro h curr hzero hthrough
    have halarm := gpuThreshold_eq_zero_iff.mp hzero
    rcases halarm with ⟨f, hf, hverdict⟩
    rcases hthrough with ⟨g, hg, hfirst⟩
    rw [hfirst.unique hf] at hg
    have htrend := (gpuVerdict_eq_zero_iff hg).mp hverdict
    exact ⟨f, hg, h f hg htrend _ hf.mem_and_holds.2⟩

end Alarm

/-- Neither function raises an alarm inside the intervals exactly when every
value above the limit of a metric with a trend is above its interval. -/
theorem noFalseAlarm_iff (config : Config) (hsqrt : 0 < config.sqrtCount) (node : NodeMetric)
    (hnode : ∀ f, 0 ≤ (node.of f).aver ∧ 0 ≤ (node.of f).stDev) (gpu : GPUMetric)
    (hgpu : ∀ f, 0 ≤ (gpu.of f).aver ∧ 0 ≤ (gpu.of f).stDev) :
    ((∀ curr, NodeNoFalseAlarm config node curr) ↔
        ∀ f, (node.of f).Trends → (node.of f).Covered config .nodeThreshold) ∧
      ((∀ curr, GPUNoFalseAlarm config gpu curr) ↔
        ∀ f, f ≠ .temp → (gpu.of f).Trends → (gpu.of f).Covered config .gpuThreshold) :=
  ⟨nodeNoFalseAlarm_iff hsqrt hnode, gpuNoFalseAlarm_iff hsqrt hgpu⟩

/-- A GPU on which only the memory trends. -/
def risingGPU : GPUMetric where
  averMemory := 100
  stDevMemory := 10
  gpuMemoryList := [103, 102, 101, 100]

/-- Ten times the average is far above the interval. -/
theorem covered_memory (frame : Frame) :
    (⟨100, 10, [103, 102, 101, 100]⟩ : Average Int64).Covered fourRows frame := by
  intro v hv
  rcases hv with ⟨limit, hlimit, hlt⟩
  have hvalue : fourRows.limit frame 100 10 = .ok 500 := by
    rw [limit_of_ne (by decide +kernel)]
    decide +kernel
  rw [hvalue] at hlimit
  cases hlimit
  have hlow : (⟨100, 10, [103, 102, 101, 100]⟩ : Average Int64).bound fourRows <
      float64 500 := by
    decide +kernel
  exact lt_trans hlow (float64_lt.mpr hlt)

/-- With a deviation of a tenth of the average every alarm is above an interval. -/
theorem noFalseAlarm_when_rising :
    (∀ curr, NodeNoFalseAlarm fourRows risingNode curr) ∧
      ∀ curr, GPUNoFalseAlarm fourRows risingGPU curr := by
  have hnode : ∀ f, 0 ≤ (risingNode.of f).aver ∧ 0 ≤ (risingNode.of f).stDev := by
    intro f
    cases f <;> decide +kernel
  have hgpu : ∀ f, 0 ≤ (risingGPU.of f).aver ∧ 0 ≤ (risingGPU.of f).stDev := by
    intro f
    cases f <;> decide +kernel
  have h := noFalseAlarm_iff fourRows (by decide +kernel) risingNode hnode risingGPU hgpu
  refine ⟨h.1.mpr ?_, h.2.mpr ?_⟩
  · intro f htrend
    cases f
    case memory => exact covered_memory _
    all_goals exact absurd htrend (by decide +kernel)
  · intro f _ htrend
    cases f
    case memory => exact covered_memory _
    all_goals exact absurd htrend (by decide +kernel)

/-- A node whose CPU trends, with a deviation below one. -/
def steadyNode : NodeMetric where
  averCpu := 100
  stDevCpu := 1 / 2
  cpuList := [103, 102, 101, 100]

/-- A GPU whose memory trends, with a deviation below one. -/
def steadyGPU : GPUMetric where
  averMemory := 100
  stDevMemory := 1 / 2
  gpuMemoryList := [103, 102, 101, 100]

/-- A deviation below one makes the limit zero, so half the average is above it. -/
theorem noFalseAlarm_fails_when_steady :
    (¬ ∀ (config : Config) (aver : NodeMetric) (curr : GrpcNode), 0 < config.sqrtCount →
        (∀ f, 0 ≤ (aver.of f).aver ∧ 0 ≤ (aver.of f).stDev) →
        NodeNoFalseAlarm config aver curr) ∧
      ¬ ∀ (config : Config) (aver : GPUMetric) (curr : GrpcGPU), 0 < config.sqrtCount →
        (∀ f, 0 ≤ (aver.of f).aver ∧ 0 ≤ (aver.of f).stDev) →
        GPUNoFalseAlarm config aver curr := by
  have hsqrt : 0 < fourRows.sqrtCount := by decide +kernel
  constructor
  · intro hclaim
    have haver : ∀ f, 0 ≤ (steadyNode.of f).aver ∧ 0 ≤ (steadyNode.of f).stDev := by
      intro f
      cases f <;> decide +kernel
    have hzero : nodeThreshold fourRows steadyNode { grpcNodeCPU := 50 } = .ok 0 := by
      decide +kernel
    have hsome := hclaim fourRows steadyNode { grpcNodeCPU := 50 } hsqrt haver hzero
    rcases hsome with ⟨f, hf⟩
    revert hf
    cases f <;> decide +kernel
  · intro hclaim
    have haver : ∀ f, 0 ≤ (steadyGPU.of f).aver ∧ 0 ≤ (steadyGPU.of f).stDev := by
      intro f
      cases f <;> decide +kernel
    have hzero : gpuThreshold fourRows steadyGPU { grpcGPUused := 50 } = .ok 0 := by
      decide +kernel
    have habove : ∀ f, GPUExceeds fourRows steadyGPU { grpcGPUused := 50 } f → f = .memory := by
      intro f hf
      rcases hf with ⟨limit, hlimit, hlt⟩
      rw [limit_of_ne (by decide +kernel)] at hlimit
      cases hlimit
      revert hlt
      cases f <;> decide +kernel
    have hthrough : ∃ f, f ≠ .temp ∧
        First (GPUExceeds fourRows steadyGPU { grpcGPUused := 50 }) f GPUField.all := by
      rcases gpuThreshold_eq_zero_iff.mp hzero with ⟨f, hf, -⟩
      refine ⟨f, ?_, hf⟩
      rw [habove f hf.mem_and_holds.2]
      decide
    have hsome := hclaim fourRows steadyGPU { grpcGPUused := 50 } hsqrt haver hzero hthrough
    rcases hsome with ⟨f, -, hf⟩
    revert hf
    cases f <;> decide +kernel

end MetricCollector.Analyzer
