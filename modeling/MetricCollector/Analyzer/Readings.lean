import MetricCollector.GoLib.Cascade
import MetricCollector.Analyzer.Pattern

/-!
# The metrics of the threshold functions

`NodeThreshold`, `GPUThreshold` and `PodThreshold` are chains with one test for
each metric.  Here the metrics of each are an enumeration, in the order of the
chain, and the chain is a recursion over it.

* `nodeThreshold_eq` and `gpuThreshold_eq` have it that the functions are such
  chains, and `firstAbove_eq_ok_iff` that the first metric above its limit
  decides.
* `podThresholdOn` is `PodThreshold` with the answer of the pattern test given,
  and `podThresholdOn_eq_zero_iff` says which metric decides there.
-/

namespace MetricCollector.Analyzer

open GoLib Grpcs Influx

/-- What an average record says of one metric. -/
structure Average (α : Type) where
  aver : α
  stDev : ℚ
  recent : List ℚ

/-- The trend test of an integer metric is positive. -/
def Average.Trends (a : Average Int64) : Prop := getTrands a.recent (float64 a.aver) = true

instance (a : Average Int64) : Decidable a.Trends :=
  inferInstanceAs (Decidable (getTrands a.recent (float64 a.aver) = true))

/-- The current value is above the limit that is computed for the metric. -/
def Average.Exceeds (a : Average Int64) (config : Config) (frame : Frame) (current : Int64) :
    Prop :=
  ∃ limit, config.limit frame a.aver a.stDev = .ok limit ∧ limit < current

/-! ## Limits -/

theorem limit_of_zero {config : Config} (h : truncInt64 config.sqrtCount = 0) (frame : Frame)
    (aver : Int64) (stDev : ℚ) :
    config.limit frame aver stDev = .error ⟨.divideByZero, frame⟩ :=
  if_pos h

theorem limit_of_ne {config : Config} (h : truncInt64 config.sqrtCount ≠ 0) (frame : Frame)
    (aver : Int64) (stDev : ℚ) :
    config.limit frame aver stDev =
      .ok (aver * truncInt64 stDev / truncInt64 config.sqrtCount) :=
  divInt64_of_ne h

/-- The chain of the node and GPU thresholds: the verdict on the first metric
above its limit. -/
def firstAbove {F : Type} (config : Config) (frame : Frame) (average : F → Average Int64)
    (current verdict : F → Int64) : List F → Exec Int64
  | [] => return 1
  | f :: fs => do
      let limit ← config.limit frame (average f).aver (average f).stDev
      if limit < current f then return verdict f
      else firstAbove config frame average current verdict fs

/-- The metric is above its limit. -/
def Above {F : Type} (config : Config) (frame : Frame) (average : F → Average Int64)
    (current : F → Int64) (f : F) : Prop :=
  (average f).Exceeds config frame (current f)

section Chain

variable {F : Type} {config : Config} {frame : Frame} {average : F → Average Int64}
  {current verdict : F → Int64} {f : F} {fs : List F}

/-- Without a divisor no metric has a limit. -/
theorem not_above_of_zero (hdiv : truncInt64 config.sqrtCount = 0) :
    ¬ Above config frame average current f := by
  intro h
  rcases h with ⟨limit, hlimit, -⟩
  rw [limit_of_zero hdiv] at hlimit
  cases hlimit

theorem above_iff_of_ne (hdiv : truncInt64 config.sqrtCount ≠ 0) :
    Above config frame average current f ↔
      (average f).aver * truncInt64 (average f).stDev / truncInt64 config.sqrtCount < current f := by
  have hlimit := limit_of_ne hdiv frame (average f).aver (average f).stDev
  constructor
  · intro h
    rcases h with ⟨limit, hlimit', hlt⟩
    rw [hlimit] at hlimit'
    cases hlimit'
    exact hlt
  · intro hlt
    exact ⟨_, hlimit, hlt⟩

/-- A chain faults only where there is no divisor. -/
theorem raises_firstAbove {p : Fault Frame → Prop}
    (hp : truncInt64 config.sqrtCount = 0 → p ⟨.divideByZero, frame⟩) :
    Raises p (firstAbove config frame average current verdict fs) := by
  induction fs with
  | nil => exact raises_ok _
  | cons f fs ih =>
      refine raises_bind ?_ fun limit _ => raises_ite (raises_ok _) ih
      by_cases hdiv : truncInt64 config.sqrtCount = 0
      · rw [limit_of_zero hdiv]
        exact raises_error (hp hdiv)
      · rw [limit_of_ne hdiv]
        exact raises_ok _

/-- Without a divisor a chain faults at its first metric. -/
theorem firstAbove_cons_of_zero (hdiv : truncInt64 config.sqrtCount = 0) :
    firstAbove config frame average current verdict (f :: fs) =
      .error ⟨.divideByZero, frame⟩ := by
  rw [firstAbove, limit_of_zero hdiv, error_bind]

/-- A metric above its limit ends the chain. -/
theorem firstAbove_cons_of_above (hdiv : truncInt64 config.sqrtCount ≠ 0)
    (h : Above config frame average current f) :
    firstAbove config frame average current verdict (f :: fs) = .ok (verdict f) := by
  rw [firstAbove, limit_of_ne hdiv, ok_bind, if_pos ((above_iff_of_ne hdiv).mp h), pure_eq_ok]

/-- Any other is passed. -/
theorem firstAbove_cons_of_not_above (hdiv : truncInt64 config.sqrtCount ≠ 0)
    (h : ¬ Above config frame average current f) :
    firstAbove config frame average current verdict (f :: fs) =
      firstAbove config frame average current verdict fs := by
  rw [firstAbove, limit_of_ne hdiv, ok_bind, if_neg (mt (above_iff_of_ne hdiv).mpr h)]

/-- The first metric above its limit gives the verdict. -/
theorem firstAbove_of_first (hf : First (Above config frame average current) f fs) :
    firstAbove config frame average current verdict fs = .ok (verdict f) := by
  have hdiv : truncInt64 config.sqrtCount ≠ 0 :=
    fun hzero => not_above_of_zero hzero hf.mem_and_holds.2
  induction fs with
  | nil => exact absurd hf not_first_nil
  | cons g gs ih =>
      by_cases hg : Above config frame average current g
      · rw [firstAbove_cons_of_above hdiv hg, (first_cons_of_pos hg).mp hf]
      · rw [firstAbove_cons_of_not_above hdiv hg]
        exact ih ((first_cons_of_neg hg).mp hf)

/-- A verdict that is not the default comes from the first metric above its
limit. -/
theorem firstAbove_eq_ok_iff {v : Int64} (hv : v ≠ 1) :
    firstAbove config frame average current verdict fs = .ok v ↔
      ∃ f, First (Above config frame average current) f fs ∧ verdict f = v := by
  constructor
  · intro h
    induction fs with
    | nil => exact absurd (Except.ok.inj h).symm hv
    | cons f fs ih =>
        by_cases hdiv : truncInt64 config.sqrtCount = 0
        · rw [firstAbove, limit_of_zero hdiv, error_bind] at h
          cases h
        · by_cases hf : Above config frame average current f
          · rw [firstAbove_cons_of_above hdiv hf, Except.ok.injEq] at h
            exact ⟨f, (first_cons_of_pos hf).mpr rfl, h⟩
          · rw [firstAbove_cons_of_not_above hdiv hf] at h
            rcases ih h with ⟨g, hg, hverdict⟩
            exact ⟨g, (first_cons_of_neg hf).mpr hg, hverdict⟩
  · intro h
    rcases h with ⟨f, hf, hverdict⟩
    rw [firstAbove_of_first hf, hverdict]

end Chain

theorem trendVerdict_eq_zero_iff {a : Average Int64} :
    trendVerdict a.recent a.aver = 0 ↔ a.Trends := by
  unfold trendVerdict Average.Trends
  cases getTrands a.recent (float64 a.aver) with
  | true => simp
  | false => simp

/-! ## Nodes -/

/-- The metrics of `NodeThreshold`. -/
inductive NodeField where
  | cpu
  | memory
  | networkRx
  | networkTx
  | storage
deriving DecidableEq, Repr

/-- The metrics in the order of the chain. -/
def NodeField.all : List NodeField := [.cpu, .memory, .networkRx, .networkTx, .storage]

theorem NodeField.mem_all (f : NodeField) : f ∈ NodeField.all := by
  cases f <;> decide

/-- The average of a metric. -/
def NodeMetric.of (aver : NodeMetric) : NodeField → Average Int64
  | .cpu => ⟨aver.averCpu, aver.stDevCpu, aver.cpuList⟩
  | .memory => ⟨aver.averMemory, aver.stDevMemory, aver.memoryList⟩
  | .networkRx => ⟨aver.averNetworkRx, aver.stDevNetworkRx, aver.rxList⟩
  | .networkTx => ⟨aver.averNetworkTx, aver.stDevNetworkTx, aver.txList⟩
  | .storage => ⟨aver.averStorage, aver.stDevStorage, aver.storageList⟩

/-- The current value of a metric. -/
def nodeCurrent (curr : GrpcNode) : NodeField → Int64
  | .cpu => curr.grpcNodeCPU
  | .memory => curr.grpcNodeMemory
  | .networkRx => curr.nodeNetworkRX
  | .networkTx => curr.nodeNetworkTX
  | .storage => curr.grpcNodeStorage

/-- A node with these current values. -/
def nodeAt (value : NodeField → Int64) : GrpcNode where
  grpcNodeCPU := value .cpu
  grpcNodeMemory := value .memory
  nodeNetworkRX := value .networkRx
  nodeNetworkTX := value .networkTx
  grpcNodeStorage := value .storage

@[simp] theorem nodeCurrent_nodeAt (value : NodeField → Int64) (f : NodeField) :
    nodeCurrent (nodeAt value) f = value f := by
  cases f <;> rfl

/-- The metric of a node is above its limit. -/
def NodeExceeds (config : Config) (aver : NodeMetric) (curr : GrpcNode) : NodeField → Prop :=
  Above config .nodeThreshold aver.of (nodeCurrent curr)

theorem nodeThreshold_eq (config : Config) (aver : NodeMetric) (curr : GrpcNode) :
    nodeThreshold config aver curr =
      firstAbove config .nodeThreshold aver.of (nodeCurrent curr)
        (fun f => trendVerdict (aver.of f).recent (aver.of f).aver) NodeField.all :=
  rfl

/-- A node is degraded if its first metric above its limit trends. -/
theorem nodeThreshold_eq_zero_iff {config : Config} {aver : NodeMetric} {curr : GrpcNode} :
    nodeThreshold config aver curr = .ok 0 ↔
      ∃ f, First (NodeExceeds config aver curr) f NodeField.all ∧ (aver.of f).Trends := by
  rw [nodeThreshold_eq, firstAbove_eq_ok_iff (by decide)]
  exact exists_congr fun f => and_congr_right fun _ => trendVerdict_eq_zero_iff

/-! ## GPUs -/

/-- The metrics of `GPUThreshold`. -/
inductive GPUField where
  | fanSpeed
  | memory
  | rx
  | tx
  | power
  | temp
  | util
deriving DecidableEq, Repr

/-- The metrics in the order of the chain. -/
def GPUField.all : List GPUField := [.fanSpeed, .memory, .rx, .tx, .power, .temp, .util]

theorem GPUField.mem_all (f : GPUField) : f ∈ GPUField.all := by
  cases f <;> decide

/-- The average of a metric; the temperatures are not kept. -/
def GPUMetric.of (aver : GPUMetric) : GPUField → Average Int64
  | .fanSpeed => ⟨aver.averFanSpeed, aver.stDevFanSpeed, aver.fanSpeedList⟩
  | .memory => ⟨aver.averMemory, aver.stDevMemory, aver.gpuMemoryList⟩
  | .rx => ⟨aver.averRX, aver.stDevRX, aver.rxList⟩
  | .tx => ⟨aver.averTX, aver.stDevTX, aver.txList⟩
  | .power => ⟨aver.averPower, aver.stDevPower, aver.powerList⟩
  | .temp => ⟨aver.averTemp, aver.stDevTemp, []⟩
  | .util => ⟨aver.averUtil, aver.stDevUtil, aver.gpuUtilList⟩

/-- The current value of a metric. -/
def gpuCurrent (curr : GrpcGPU) : GPUField → Int64
  | .fanSpeed => curr.fanSpeed
  | .memory => curr.grpcGPUused
  | .rx => curr.gpuRX
  | .tx => curr.gpuTX
  | .power => curr.grpcGPUpower
  | .temp => curr.grpcGPUtemp.current
  | .util => curr.grpcGPUutil

/-- A GPU with these current values. -/
def gpuAt (value : GPUField → Int64) : GrpcGPU where
  fanSpeed := value .fanSpeed
  grpcGPUused := value .memory
  gpuRX := value .rx
  gpuTX := value .tx
  grpcGPUpower := value .power
  grpcGPUtemp := { current := value .temp }
  grpcGPUutil := value .util

@[simp] theorem gpuCurrent_gpuAt (value : GPUField → Int64) (f : GPUField) :
    gpuCurrent (gpuAt value) f = value f := by
  cases f <;> rfl

/-- The metric of a GPU is above its limit. -/
def GPUExceeds (config : Config) (aver : GPUMetric) (curr : GrpcGPU) : GPUField → Prop :=
  Above config .gpuThreshold aver.of (gpuCurrent curr)

/-- The verdict on a metric above its limit. -/
def gpuVerdict (aver : GPUMetric) (curr : GrpcGPU) : GPUField → Int64
  | .temp => if gpuTemperatureAnalysis curr = 0 then 0 else 1
  | f => trendVerdict (aver.of f).recent (aver.of f).aver

theorem gpuThreshold_eq (config : Config) (aver : GPUMetric) (curr : GrpcGPU) :
    gpuThreshold config aver curr =
      firstAbove config .gpuThreshold aver.of (gpuCurrent curr) (gpuVerdict aver curr)
        GPUField.all :=
  rfl

/-- A trend test decides about every metric but the temperature. -/
theorem gpuVerdict_eq_zero_iff {aver : GPUMetric} {curr : GrpcGPU} {f : GPUField}
    (hf : f ≠ .temp) : gpuVerdict aver curr f = 0 ↔ (aver.of f).Trends := by
  cases f
  case temp => exact absurd rfl hf
  all_goals exact trendVerdict_eq_zero_iff

/-- A GPU is degraded if the verdict on its first metric above its limit is. -/
theorem gpuThreshold_eq_zero_iff {config : Config} {aver : GPUMetric} {curr : GrpcGPU} :
    gpuThreshold config aver curr = .ok 0 ↔
      ∃ f, First (GPUExceeds config aver curr) f GPUField.all ∧ gpuVerdict aver curr f = 0 := by
  rw [gpuThreshold_eq, firstAbove_eq_ok_iff (by decide)]
  rfl

/-! ## Pods -/

/-- The metrics of `PodThreshold`. -/
inductive PodField where
  | cpu
  | gpuMemory
  | memory
  | networkRx
  | networkTx
  | storage
deriving DecidableEq, Repr

/-- The metrics in the order of the chain. -/
def PodField.all : List PodField := [.cpu, .gpuMemory, .memory, .networkRx, .networkTx, .storage]

theorem PodField.mem_all (f : PodField) : f ∈ PodField.all := by
  cases f <;> decide

/-- The average of a metric. -/
def PodMetric.of (aver : PodMetric) : PodField → Average ℚ
  | .cpu => ⟨aver.averCPU, aver.stDevCPU, aver.cpuList⟩
  | .gpuMemory => ⟨float64 aver.averGPUMemory, aver.stDevGPUMemory, aver.gpuMemoryList⟩
  | .memory => ⟨float64 aver.averMemory, aver.stDevMemory, aver.memoryList⟩
  | .networkRx => ⟨float64 aver.averNetworkRx, aver.stDevNetworkRx, aver.rxList⟩
  | .networkTx => ⟨float64 aver.averNetworkTx, aver.stDevNetworkTx, aver.txList⟩
  | .storage => ⟨float64 aver.averStorage, aver.stDevStorage, aver.storageList⟩

/-- The current value of a metric. -/
def podCurrent (curr : Grpcs.PodMetric) : PodField → ℚ
  | .cpu => curr.podCPU
  | .gpuMemory => float64 curr.podGPUMemory
  | .memory => float64 curr.podMemory
  | .networkRx => float64 curr.podNetworkRX
  | .networkTx => float64 curr.podNetworkTX
  | .storage => float64 curr.podStorage

/-- The sample that takes each of its metrics from another sample. -/
def podMix (choose : PodField → Grpcs.PodMetric) : Grpcs.PodMetric where
  podCPU := (choose .cpu).podCPU
  podGPUMemory := (choose .gpuMemory).podGPUMemory
  podMemory := (choose .memory).podMemory
  podNetworkRX := (choose .networkRx).podNetworkRX
  podNetworkTX := (choose .networkTx).podNetworkTX
  podStorage := (choose .storage).podStorage

@[simp] theorem podCurrent_podMix (choose : PodField → Grpcs.PodMetric) (f : PodField) :
    podCurrent (podMix choose) f = podCurrent (choose f) f := by
  cases f <;> rfl

/-- The sample whose metrics are all at their averages. -/
def PodMetric.sample (aver : PodMetric) : Grpcs.PodMetric where
  podCPU := aver.averCPU
  podGPUMemory := aver.averGPUMemory
  podMemory := aver.averMemory
  podNetworkRX := aver.averNetworkRx
  podNetworkTX := aver.averNetworkTx
  podStorage := aver.averStorage

@[simp] theorem podCurrent_sample (aver : PodMetric) (f : PodField) :
    podCurrent aver.sample f = (aver.of f).aver := by
  cases f <;> rfl

/-- The sample whose integer metrics are as large as they can be. -/
def fullSample : Grpcs.PodMetric where
  podGPUMemory := Int64.maxValue
  podMemory := Int64.maxValue
  podNetworkRX := Int64.maxValue
  podNetworkTX := Int64.maxValue
  podStorage := Int64.maxValue

theorem podCurrent_fullSample {f : PodField} (hf : f ≠ .cpu) :
    podCurrent fullSample f = float64 Int64.maxValue := by
  cases f
  case cpu => exact absurd rfl hf
  all_goals rfl

theorem float64_le_maxValue (n : Int64) : float64 n ≤ float64 Int64.maxValue := by
  unfold float64
  exact_mod_cast n.toInt_le

theorem podCurrent_le_maxValue (curr : Grpcs.PodMetric) {f : PodField} (hf : f ≠ .cpu) :
    podCurrent curr f ≤ float64 Int64.maxValue := by
  cases f
  case cpu => exact absurd rfl hf
  all_goals exact float64_le_maxValue _

/-- The lower end of the interval. -/
def Average.low (a : Average ℚ) (config : Config) : ℚ := a.aver - config.margin a.stDev

/-- The upper end of the interval. -/
def Average.high (a : Average ℚ) (config : Config) : ℚ := a.aver + config.margin a.stDev

/-- The trend test of a metric is positive. -/
def PodMetric.Trends (aver : PodMetric) (f : PodField) : Prop :=
  getTrands (aver.of f).recent (aver.of f).aver = true

instance (aver : PodMetric) (f : PodField) : Decidable (aver.Trends f) :=
  inferInstanceAs (Decidable (getTrands (aver.of f).recent (aver.of f).aver = true))

/-- The chain stops at the metric. -/
def PodStops (config : Config) (aver : PodMetric) (curr : Grpcs.PodMetric) (f : PodField) : Prop :=
  (aver.of f).low config < podCurrent curr f ∨ podCurrent curr f < (aver.of f).high config

/-- The pattern is asked to confirm the metric if the chain stops at it: it is
above its lower end, and its trend is only looked at for the CPU. -/
def PodAsks (config : Config) (aver : PodMetric) (curr : Grpcs.PodMetric) (f : PodField) : Prop :=
  (aver.of f).low config < podCurrent curr f ∧ (f = .cpu → aver.Trends .cpu)

/-- The verdict on a metric, from the answer of the pattern test. -/
def confirm (pattern : Exec (Bool × Client)) : Exec (Int64 × Client) := do
  let (confirmed, c) ← pattern
  return (if confirmed then 0 else 1, c)

/-- `PodThreshold`, from the answer of the pattern test. -/
def podThresholdOn (config : Config) (aver : PodMetric) (curr : Grpcs.PodMetric) (c : Client)
    (pattern : Exec (Bool × Client)) : Exec (Int64 × Client) :=
  if aver.averCPU - config.margin aver.stDevCPU < curr.podCPU then
    if getTrands aver.cpuList aver.averCPU then confirm pattern
    else .ok (1, c)
  else if curr.podCPU < aver.averCPU + config.margin aver.stDevCPU then .ok (1, c)
  else if float64 aver.averGPUMemory - config.margin aver.stDevGPUMemory <
      float64 curr.podGPUMemory then confirm pattern
  else if float64 curr.podGPUMemory <
      float64 aver.averGPUMemory + config.margin aver.stDevGPUMemory then .ok (1, c)
  else if float64 aver.averMemory - config.margin aver.stDevMemory <
      float64 curr.podMemory then confirm pattern
  else if float64 curr.podMemory <
      float64 aver.averMemory + config.margin aver.stDevMemory then .ok (1, c)
  else if float64 aver.averNetworkRx - config.margin aver.stDevNetworkRx <
      float64 curr.podNetworkRX then confirm pattern
  else if float64 curr.podNetworkRX <
      float64 aver.averNetworkRx + config.margin aver.stDevNetworkRx then .ok (1, c)
  else if float64 aver.averNetworkTx - config.margin aver.stDevNetworkTx <
      float64 curr.podNetworkTX then confirm pattern
  else if float64 curr.podNetworkTX <
      float64 aver.averNetworkTx + config.margin aver.stDevNetworkTx then .ok (1, c)
  else if float64 aver.averStorage - config.margin aver.stDevStorage <
      float64 curr.podStorage then confirm pattern
  else if float64 curr.podStorage <
      float64 aver.averStorage + config.margin aver.stDevStorage then .ok (1, c)
  else .ok (1, c)

/-- The chain of the pod threshold. -/
def firstStop (config : Config) (aver : PodMetric) (curr : Grpcs.PodMetric) (c : Client)
    (pattern : Exec (Bool × Client)) : List PodField → Exec (Int64 × Client)
  | [] => .ok (1, c)
  | f :: fs =>
      if (aver.of f).low config < podCurrent curr f then
        if f = .cpu → getTrands aver.cpuList aver.averCPU = true then confirm pattern
        else .ok (1, c)
      else if podCurrent curr f < (aver.of f).high config then .ok (1, c)
      else firstStop config aver curr c pattern fs

theorem podThresholdOn_eq (config : Config) (aver : PodMetric) (curr : Grpcs.PodMetric)
    (c : Client) (pattern : Exec (Bool × Client)) :
    podThresholdOn config aver curr c pattern =
      firstStop config aver curr c pattern PodField.all := by
  simp only [podThresholdOn, firstStop, PodField.all, PodMetric.of, podCurrent, Average.low,
    Average.high, reduceCtorEq, IsEmpty.forall_iff, forall_const, if_true]
  rfl

/-- The pattern was asked and confirmed. -/
def Confirms (pattern : Exec (Bool × Client)) : Prop := ∃ c, pattern = .ok (true, c)

theorem confirm_eq_zero_iff {pattern : Exec (Bool × Client)} :
    (∃ c, confirm pattern = .ok (0, c)) ↔ Confirms pattern := by
  unfold confirm Confirms
  cases pattern with
  | error fault => simp
  | ok answer =>
      rcases answer with ⟨confirmed, c⟩
      cases confirmed with
      | true => simp
      | false => simp

/-- The first metric that the chain stops at decides, if the pattern is asked
about it. -/
theorem firstStop_eq_zero_iff {config : Config} {aver : PodMetric} {curr : Grpcs.PodMetric}
    {c : Client} {pattern : Exec (Bool × Client)} {fs : List PodField} :
    (∃ c', firstStop config aver curr c pattern fs = .ok (0, c')) ↔
      (∃ f, First (PodStops config aver curr) f fs ∧ PodAsks config aver curr f) ∧
        Confirms pattern := by
  have hquiet : ¬ ∃ c', (.ok (1, c) : Exec (Int64 × Client)) = .ok (0, c') := by simp
  induction fs with
  | nil =>
      simp [firstStop]
  | cons f fs ih =>
      rw [firstStop]
      by_cases hlow : (aver.of f).low config < podCurrent curr f
      · have hstops : PodStops config aver curr f := .inl hlow
        have hfirst : (∃ g, First (PodStops config aver curr) g (f :: fs) ∧
            PodAsks config aver curr g) ↔ (f = .cpu → aver.Trends .cpu) := by
          constructor
          · intro h
            rcases h with ⟨g, hg, hasks⟩
            rw [(first_cons_of_pos hstops).mp hg] at hasks
            exact hasks.2
          · intro h
            exact ⟨f, (first_cons_of_pos hstops).mpr rfl, hlow, h⟩
        rw [if_pos hlow, hfirst]
        by_cases htrend : f = .cpu → getTrands aver.cpuList aver.averCPU = true
        · rw [if_pos htrend, confirm_eq_zero_iff]
          exact (and_iff_right htrend).symm
        · rw [if_neg htrend]
          exact iff_of_false hquiet fun h => htrend h.1
      · rw [if_neg hlow]
        by_cases hhigh : podCurrent curr f < (aver.of f).high config
        · have hstops : PodStops config aver curr f := .inr hhigh
          rw [if_pos hhigh]
          refine iff_of_false hquiet fun h => ?_
          rcases h.1 with ⟨g, hg, hasks⟩
          rw [(first_cons_of_pos hstops).mp hg] at hasks
          exact hlow hasks.1
        · have hpasses : ¬ PodStops config aver curr f := by
            rintro (h | h)
            · exact hlow h
            · exact hhigh h
          rw [if_neg hhigh]
          refine ih.trans ?_
          refine and_congr_left fun _ => exists_congr fun g => and_congr_left fun _ => ?_
          exact (first_cons_of_neg hpasses).symm

/-- A pod is degraded if the first metric that the chain stops at is one the
pattern is asked about, and the pattern confirms. -/
theorem podThresholdOn_eq_zero_iff {config : Config} {aver : PodMetric}
    {curr : Grpcs.PodMetric} {c : Client} {pattern : Exec (Bool × Client)} :
    (∃ c', podThresholdOn config aver curr c pattern = .ok (0, c')) ↔
      (∃ f, First (PodStops config aver curr) f PodField.all ∧ PodAsks config aver curr f) ∧
        Confirms pattern := by
  rw [podThresholdOn_eq, firstStop_eq_zero_iff]

/-- `PodThreshold` asks `GetPodPattern`. -/
theorem podThreshold_eq (config : Config) (aver : PodMetric) (curr : Grpcs.PodMetric) (c : Client)
    (uuid : String) : podThreshold config aver curr c uuid =
      podThresholdOn config aver curr c (getPodPattern c curr uuid) :=
  rfl

end MetricCollector.Analyzer
