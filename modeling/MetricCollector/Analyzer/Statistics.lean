import MetricCollector.Analyzer.Types
import MetricCollector.Analyzer.Threshold
import MetricCollector.Influx

/-!
# The statistics passes

Each history function reads its rows twice, once for the averages and once for
the deviations, and both passes read the same columns of a row.  A `Sample` is
what one row is read as, so the columns are written down once for each
measurement:

* `nodeSample` for `nodemetric`, `gpuSample` for `gpumetric` and `podSample`
  for `podmetric`;
* `add` is the body of the first pass and `deviate` that of the second;
* `average` and `scale` are the divisions that follow them.
-/

namespace MetricCollector.Analyzer

open GoLib Influx

/-- `float64((x - aver) ^ 2)` on integers, where `^` is exclusive or. -/
def deviation (x aver : Int64) : ℚ := float64 ((x - aver) ^^^ 2)

/-- The divisor `float64(*CountNumber) - 1`. -/
def Config.degrees (config : Config) : ℚ := float64 config.countNumber - 1

/-- A loop over the rows: each is read as a sample, which the body adds. -/
def overRows {A S : Type} (sample : List Cell → Exec S) (body : A → S → A)
    (rows : List (List Cell)) (aver : A) : Exec A :=
  rows.foldlM (fun aver row => do return body aver (← sample row)) aver

/-- Every row can be read. -/
def Reads {S : Type} (sample : List Cell → Exec S) (rows : List (List Cell)) : Prop :=
  ∀ row ∈ rows, ∃ s, sample row = .ok s

/-- A loop over readable rows returns. -/
theorem exists_overRows {A S : Type} {sample : List Cell → Exec S} {rows : List (List Cell)}
    (h : Reads sample rows) (body : A → S → A) (aver : A) :
    ∃ aver', overRows sample body rows aver = .ok aver' := by
  induction rows generalizing aver with
  | nil => exact ⟨aver, rfl⟩
  | cons row rows ih =>
      obtain ⟨s, hs⟩ := h row (by simp)
      obtain ⟨aver', hrest⟩ := ih (fun row hrow => h row (by simp [hrow])) (body aver s)
      refine ⟨aver', ?_⟩
      unfold overRows at hrest ⊢
      rw [List.foldlM_cons, hs, ok_bind, pure_eq_ok, ok_bind]
      exact hrest

/-- A loop that returned has read every row. -/
theorem reads_of_overRows {A S : Type} {sample : List Cell → Exec S} {body : A → S → A}
    {rows : List (List Cell)} {aver aver' : A} (h : overRows sample body rows aver = .ok aver') :
    Reads sample rows := by
  refine (foldlM_inv (fun _ => True) (fun row => ∃ s, sample row = .ok s) ?_ trivial h).2
  intro aver aver' row _ _ hturn
  rcases bind_eq_ok.mp hturn with ⟨s, hs, -⟩
  exact ⟨trivial, s, hs⟩

theorem raises_overRows {A S : Type} {p : Fault Frame → Prop} {sample : List Cell → Exec S}
    (hsample : ∀ row, Raises p (sample row)) (body : A → S → A) (rows : List (List Cell))
    (aver : A) : Raises p (overRows sample body rows aver) := by
  apply raises_foldlM
  intro aver row _
  exact raises_bind (hsample row) fun s _ => raises_ok _

/-! ## Nodes -/

structure NodeSample where
  cpu : Int64
  memory : Int64
  networkTx : Int64
  networkRx : Int64
  storage : Int64
deriving DecidableEq, Repr

/-- The columns of a `nodemetric` row. -/
def nodeSample (row : List Cell) : Exec NodeSample := do
  let averCPU ← index .getNodeMetric row 2
  let averMemory ← index .getNodeMetric row 3
  let averNetworkTx ← index .getNodeMetric row 5
  let averNetworkRx ← index .getNodeMetric row 6
  let averStorage ← index .getNodeMetric row 7
  return {
    cpu := averCPU.parseInt
    memory := averMemory.parseInt
    networkTx := averNetworkTx.parseInt
    networkRx := averNetworkRx.parseInt
    storage := averStorage.parseInt }

def NodeMetric.add (aver : NodeMetric) (s : NodeSample) : NodeMetric :=
  { aver with
    cpuList := aver.cpuList ++ [float64 s.cpu]
    memoryList := aver.memoryList ++ [float64 s.memory]
    storageList := aver.storageList ++ [float64 s.storage]
    rxList := aver.rxList ++ [float64 s.networkRx]
    txList := aver.txList ++ [float64 s.networkTx]
    averCpu := aver.averCpu + s.cpu
    averMemory := aver.averMemory + s.memory
    averNetworkRx := aver.averNetworkRx + s.networkRx
    averNetworkTx := aver.averNetworkTx + s.networkTx
    averStorage := aver.averStorage + s.storage }

def NodeMetric.average (config : Config) (aver : NodeMetric) : Exec NodeMetric := do
  let averCpu ← divInt64 .getNodeMetric aver.averCpu config.countNumber
  let averMemory ← divInt64 .getNodeMetric aver.averMemory config.countNumber
  let averNetworkRx ← divInt64 .getNodeMetric aver.averNetworkRx config.countNumber
  let averNetworkTx ← divInt64 .getNodeMetric aver.averNetworkTx config.countNumber
  let averStorage ← divInt64 .getNodeMetric aver.averStorage config.countNumber
  return { aver with
    averCpu := averCpu
    averMemory := averMemory
    averNetworkRx := averNetworkRx
    averNetworkTx := averNetworkTx
    averStorage := averStorage }

/-- The deviation of the storage column is added to `stDevNetworkTx`. -/
def NodeMetric.deviate (aver : NodeMetric) (s : NodeSample) : NodeMetric :=
  { aver with
    stDevCpu := aver.stDevCpu + deviation s.cpu aver.averCpu
    stDevMemory := aver.stDevMemory + deviation s.memory aver.averMemory
    stDevNetworkRx := aver.stDevNetworkRx + deviation s.networkRx aver.averNetworkRx
    stDevNetworkTx := aver.stDevNetworkTx + deviation s.networkTx aver.averNetworkTx +
      deviation s.storage aver.averStorage }

def NodeMetric.scale (config : Config) (aver : NodeMetric) : NodeMetric :=
  { aver with
    stDevCpu := aver.stDevCpu / config.degrees
    stDevMemory := aver.stDevMemory / config.degrees
    stDevNetworkRx := aver.stDevNetworkRx / config.degrees
    stDevNetworkTx := aver.stDevNetworkTx / config.degrees
    stDevStorage := aver.stDevStorage / config.degrees }

/-- The two passes of `GetNodeMetric`. -/
def nodeStatistics (config : Config) (rows : List (List Cell)) : Exec NodeMetric := do
  let aver ← overRows nodeSample NodeMetric.add rows {}
  let aver ← aver.average config
  let aver ← overRows nodeSample NodeMetric.deviate rows aver
  return aver.scale config

theorem raises_nodeSample {p : Fault Frame → Prop} (hp : p ⟨.indexOutOfRange, .getNodeMetric⟩)
    (row : List Cell) : Raises p (nodeSample row) := by
  have hindex : ∀ i, Raises p (index .getNodeMetric row i) := fun i => raises_index hp _ _
  unfold nodeSample
  refine raises_bind (hindex 2) fun cpu _ => raises_bind (hindex 3) fun memory _ => ?_
  refine raises_bind (hindex 5) fun tx _ => raises_bind (hindex 6) fun rx _ => ?_
  exact raises_bind (hindex 7) fun storage _ => raises_ok _

theorem nodeStatistics_faultsIn {p : Frame → Prop} (hp : p .getNodeMetric) (config : Config)
    (rows : List (List Cell)) : FaultsIn p (nodeStatistics config rows) := by
  have hdiv : ∀ a b, FaultsIn p (divInt64 .getNodeMetric a b) := fun a b => faultsIn_divInt64 hp _ _
  have hpass : ∀ body aver, FaultsIn p (overRows nodeSample body rows aver : Exec NodeMetric) :=
    fun body aver =>
      faultsIn_iff_raises.mpr (raises_overRows (raises_nodeSample hp) body rows aver)
  unfold nodeStatistics
  refine faultsIn_bind (hpass _ _) fun sums => faultsIn_bind ?_ fun aver =>
    faultsIn_bind (hpass _ _) fun devs => faultsIn_ok _
  unfold NodeMetric.average
  refine faultsIn_bind (hdiv _ _) fun cpu => faultsIn_bind (hdiv _ _) fun memory => ?_
  refine faultsIn_bind (hdiv _ _) fun rx => faultsIn_bind (hdiv _ _) fun tx => ?_
  exact faultsIn_bind (hdiv _ _) fun storage => faultsIn_ok _

/-! ## GPUs -/

structure GPUSample where
  fan : Int64
  rx : Int64
  tx : Int64
  power : Int64
  memory : Int64
  temp : Int64
  util : Int64
deriving DecidableEq, Repr

/-- The columns of a `gpumetric` row. -/
def gpuSample (row : List Cell) : Exec GPUSample := do
  let averFan ← index .getGPUMetrics row 1
  let averRX ← index .getGPUMetrics row 4
  let averTX ← index .getGPUMetrics row 5
  let averPower ← index .getGPUMetrics row 7
  let averMemory ← index .getGPUMetrics row 11
  let averTemp ← index .getGPUMetrics row 12
  let averUtil ← index .getGPUMetrics row 13
  return {
    fan := averFan.parseInt
    rx := averRX.parseInt
    tx := averTX.parseInt
    power := averPower.parseInt
    memory := averMemory.parseInt
    temp := averTemp.parseInt
    util := averUtil.parseInt }

def GPUMetric.add (aver : GPUMetric) (s : GPUSample) : GPUMetric :=
  { aver with
    gpuUtilList := aver.gpuUtilList ++ [float64 s.util]
    gpuMemoryList := aver.gpuMemoryList ++ [float64 s.memory]
    fanSpeedList := aver.fanSpeedList ++ [float64 s.fan]
    powerList := aver.powerList ++ [float64 s.power]
    rxList := aver.rxList ++ [float64 s.rx]
    txList := aver.txList ++ [float64 s.tx]
    averFanSpeed := s.fan + aver.averFanSpeed
    averMemory := s.memory + aver.averMemory
    averPower := s.power + aver.averPower
    averRX := s.rx + aver.averRX
    averTX := s.tx + aver.averTX
    averTemp := s.temp + aver.averTemp
    averUtil := s.util + aver.averUtil }

def GPUMetric.average (config : Config) (aver : GPUMetric) : Exec GPUMetric := do
  let averFanSpeed ← divInt64 .getGPUMetrics aver.averFanSpeed config.countNumber
  let averMemory ← divInt64 .getGPUMetrics aver.averMemory config.countNumber
  let averPower ← divInt64 .getGPUMetrics aver.averPower config.countNumber
  let averRX ← divInt64 .getGPUMetrics aver.averRX config.countNumber
  let averTX ← divInt64 .getGPUMetrics aver.averTX config.countNumber
  let averTemp ← divInt64 .getGPUMetrics aver.averTemp config.countNumber
  let averUtil ← divInt64 .getGPUMetrics aver.averUtil config.countNumber
  return { aver with
    averFanSpeed := averFanSpeed
    averMemory := averMemory
    averPower := averPower
    averRX := averRX
    averTX := averTX
    averTemp := averTemp
    averUtil := averUtil }

def GPUMetric.deviate (aver : GPUMetric) (s : GPUSample) : GPUMetric :=
  { aver with
    stDevFanSpeed := aver.stDevFanSpeed + deviation s.fan aver.averFanSpeed
    stDevMemory := aver.stDevMemory + deviation s.memory aver.averMemory
    stDevPower := aver.stDevPower + deviation s.power aver.averPower
    stDevRX := aver.stDevRX + deviation s.rx aver.averRX
    stDevTX := aver.stDevTX + deviation s.tx aver.averTX
    stDevTemp := aver.stDevTemp + deviation s.temp aver.averTemp
    stDevUtil := aver.stDevUtil + deviation s.util aver.averUtil }

def GPUMetric.scale (config : Config) (aver : GPUMetric) : GPUMetric :=
  { aver with
    stDevFanSpeed := aver.stDevFanSpeed / config.degrees
    stDevMemory := aver.stDevMemory / config.degrees
    stDevPower := aver.stDevPower / config.degrees
    stDevRX := aver.stDevRX / config.degrees
    stDevTX := aver.stDevTX / config.degrees
    stDevTemp := aver.stDevTemp / config.degrees
    stDevUtil := aver.stDevUtil / config.degrees }

/-- The two passes of `GetGPUMetrics`. -/
def gpuStatistics (config : Config) (rows : List (List Cell)) : Exec GPUMetric := do
  let aver ← overRows gpuSample GPUMetric.add rows {}
  let aver ← aver.average config
  let aver ← overRows gpuSample GPUMetric.deviate rows aver
  return aver.scale config

theorem raises_gpuSample {p : Fault Frame → Prop} (hp : p ⟨.indexOutOfRange, .getGPUMetrics⟩)
    (row : List Cell) : Raises p (gpuSample row) := by
  have hindex : ∀ i, Raises p (index .getGPUMetrics row i) := fun i => raises_index hp _ _
  unfold gpuSample
  refine raises_bind (hindex 1) fun fan _ => raises_bind (hindex 4) fun rx _ => ?_
  refine raises_bind (hindex 5) fun tx _ => raises_bind (hindex 7) fun power _ => ?_
  refine raises_bind (hindex 11) fun memory _ => raises_bind (hindex 12) fun temp _ => ?_
  exact raises_bind (hindex 13) fun util _ => raises_ok _

/-! ## Pods -/

structure PodSample where
  cpu : ℚ
  gpuMemory : Int64
  networkRx : Int64
  networkTx : Int64
  memory : Int64
  storage : Int64
deriving DecidableEq

/-- The columns of a `podmetric` row. -/
def podSample (row : List Cell) : Exec PodSample := do
  let averCPU ← index .getPodMetric row 2
  let averGPUMemory ← index .getPodMetric row 3
  let averNetworkRx ← index .getPodMetric row 4
  let averNetworkTx ← index .getPodMetric row 5
  let averMemory ← index .getPodMetric row 6
  let averStorage ← index .getPodMetric row 10
  return {
    cpu := averCPU.parseFloat
    gpuMemory := averGPUMemory.parseInt
    networkRx := averNetworkRx.parseInt
    networkTx := averNetworkTx.parseInt
    memory := averMemory.parseInt
    storage := averStorage.parseInt }

def PodMetric.add (aver : PodMetric) (s : PodSample) : PodMetric :=
  { aver with
    cpuList := aver.cpuList ++ [s.cpu]
    gpuMemoryList := aver.gpuMemoryList ++ [float64 s.gpuMemory]
    rxList := aver.rxList ++ [float64 s.networkRx]
    txList := aver.txList ++ [float64 s.networkTx]
    storageList := aver.storageList ++ [float64 s.storage]
    memoryList := aver.memoryList ++ [float64 s.memory]
    averCPU := s.cpu + aver.averCPU
    averGPUMemory := s.gpuMemory + aver.averGPUMemory
    averNetworkRx := s.networkRx + aver.averNetworkRx
    averNetworkTx := s.networkTx + aver.averNetworkTx
    averMemory := s.memory + aver.averMemory
    averStorage := s.storage + aver.averStorage }

def PodMetric.average (config : Config) (aver : PodMetric) : Exec PodMetric := do
  let averCPU := aver.averCPU / float64 config.countNumber
  let averGPUMemory ← divInt64 .getPodMetric aver.averGPUMemory config.countNumber
  let averNetworkRx ← divInt64 .getPodMetric aver.averNetworkRx config.countNumber
  let averNetworkTx ← divInt64 .getPodMetric aver.averNetworkTx config.countNumber
  let averMemory ← divInt64 .getPodMetric aver.averMemory config.countNumber
  let averStorage ← divInt64 .getPodMetric aver.averStorage config.countNumber
  return { aver with
    averCPU := averCPU
    averGPUMemory := averGPUMemory
    averNetworkRx := averNetworkRx
    averNetworkTx := averNetworkTx
    averMemory := averMemory
    averStorage := averStorage }

/-- The CPU deviation is `math.Pow(x - aver, 2)`, a square. -/
def PodMetric.deviate (aver : PodMetric) (s : PodSample) : PodMetric :=
  { aver with
    stDevCPU := aver.stDevCPU + (s.cpu - aver.averCPU) ^ 2
    stDevGPUMemory := aver.stDevGPUMemory + deviation s.gpuMemory aver.averGPUMemory
    stDevMemory := aver.stDevMemory + deviation s.memory aver.averMemory
    stDevNetworkRx := aver.stDevNetworkRx + deviation s.networkRx aver.averNetworkRx
    stDevNetworkTx := aver.stDevNetworkTx + deviation s.networkTx aver.averNetworkTx
    stDevStorage := aver.stDevStorage + deviation s.storage aver.averStorage }

def PodMetric.scale (config : Config) (aver : PodMetric) : PodMetric :=
  { aver with
    stDevCPU := aver.stDevCPU / config.degrees
    stDevGPUMemory := aver.stDevGPUMemory / config.degrees
    stDevMemory := aver.stDevMemory / config.degrees
    stDevNetworkRx := aver.stDevNetworkRx / config.degrees
    stDevNetworkTx := aver.stDevNetworkTx / config.degrees
    stDevStorage := aver.stDevStorage / config.degrees }

/-- The two passes of `GetPodMetric`. -/
def podStatistics (config : Config) (rows : List (List Cell)) : Exec PodMetric := do
  let aver ← overRows podSample PodMetric.add rows {}
  let aver ← aver.average config
  let aver ← overRows podSample PodMetric.deviate rows aver
  return aver.scale config

theorem raises_podSample {p : Fault Frame → Prop} (hp : p ⟨.indexOutOfRange, .getPodMetric⟩)
    (row : List Cell) : Raises p (podSample row) := by
  have hindex : ∀ i, Raises p (index .getPodMetric row i) := fun i => raises_index hp _ _
  unfold podSample
  refine raises_bind (hindex 2) fun cpu _ => raises_bind (hindex 3) fun gpu _ => ?_
  refine raises_bind (hindex 4) fun rx _ => raises_bind (hindex 5) fun tx _ => ?_
  refine raises_bind (hindex 6) fun memory _ => raises_bind (hindex 10) fun storage _ => ?_
  exact raises_ok _

/-! ## The passes over readable rows return -/

/-- A row with eleven cells can be read. -/
theorem exists_podSample {row : List Cell} (h : 11 ≤ row.length) :
    ∃ s, podSample row = .ok s := by
  obtain ⟨cpu, hcpu⟩ := exists_index_of_lt Frame.getPodMetric (show 2 < row.length by omega)
  obtain ⟨mem, hmem⟩ := exists_index_of_lt Frame.getPodMetric (show 3 < row.length by omega)
  obtain ⟨rx, hrx⟩ := exists_index_of_lt Frame.getPodMetric (show 4 < row.length by omega)
  obtain ⟨tx, htx⟩ := exists_index_of_lt Frame.getPodMetric (show 5 < row.length by omega)
  obtain ⟨node, hnode⟩ := exists_index_of_lt Frame.getPodMetric (show 6 < row.length by omega)
  obtain ⟨disk, hdisk⟩ := exists_index_of_lt Frame.getPodMetric (show 10 < row.length by omega)
  unfold podSample
  rw [hcpu, ok_bind, hmem, ok_bind, hrx, ok_bind, htx, ok_bind, hnode, ok_bind, hdisk, ok_bind]
  exact ⟨_, rfl⟩

theorem exists_podAverage {config : Config} (hcount : config.countNumber ≠ 0) (aver : PodMetric) :
    ∃ aver', aver.average config = .ok aver' := by
  unfold PodMetric.average
  simp only [divInt64_of_ne hcount, ok_bind, pure_eq_ok]
  exact ⟨_, rfl⟩

/-- Both passes return on readable rows, so only the row count and the rows matter. -/
theorem exists_podStatistics {config : Config} (hcount : config.countNumber ≠ 0)
    {rows : List (List Cell)} (hreads : Reads podSample rows) :
    ∃ aver, podStatistics config rows = .ok aver := by
  obtain ⟨sums, hsums⟩ := exists_overRows hreads PodMetric.add {}
  obtain ⟨aver, haver⟩ := exists_podAverage hcount sums
  obtain ⟨devs, hdevs⟩ := exists_overRows hreads PodMetric.deviate aver
  refine ⟨devs.scale config, ?_⟩
  unfold podStatistics
  rw [hsums, ok_bind, haver, ok_bind, hdevs, ok_bind]
  rfl

end MetricCollector.Analyzer
