import MetricCollector.Analyzer.Readings
import MetricCollector.Analyzer.Statistics

/-!
# The statistics, column by column

What the two passes and the divisions after them make of a list of samples,
with each field of the record as a function of the columns.

* `overRows_eq_foldl`: a pass over rows is a fold over their samples.
* `nodeStatistics_eq`, `gpuStatistics_eq` and `podStatistics_eq` give the
  records.  The fields of a record are written down once, in `nodeSums`,
  `gpuSums` and `podSums`, before the final divisions.
-/

namespace MetricCollector.Analyzer

open GoLib Influx

/-- The deviations of a column that a second pass adds up. -/
def dispersion (column : List Int64) (aver : Int64) : ℚ :=
  (column.map fun x => deviation x aver).sum

/-- A pass over rows that can be read is a fold over their samples. -/
theorem overRows_eq_foldl {A S : Type} {sample : List Cell → Exec S} {rows : List (List Cell)}
    {samples : List S} (hread : rows.mapM sample = .ok samples) (body : A → S → A) (aver : A) :
    overRows sample body rows aver = .ok (samples.foldl body aver) := by
  induction rows generalizing samples aver with
  | nil =>
      cases hread
      rfl
  | cons row rows ih =>
      rw [List.mapM_cons] at hread
      rcases bind_eq_ok.mp hread with ⟨s, hs, hread⟩
      rcases bind_eq_ok.mp hread with ⟨ss, hss, hread⟩
      cases hread
      have hrest := ih hss (body aver s)
      unfold overRows at hrest ⊢
      rw [List.foldlM_cons, hs, ok_bind, pure_eq_ok, ok_bind]
      exact hrest

/-- The passes of the GPUs and the pods add a column from the left. -/
theorem int64_add_swap (x a b : Int64) : x + a + b = a + (x + b) := by
  rw [Int64.add_comm x a, Int64.add_assoc]

/-! ## Nodes -/

/-- The column of a metric. -/
def NodeSample.of (s : NodeSample) : NodeField → Int64
  | .cpu => s.cpu
  | .memory => s.memory
  | .networkRx => s.networkRx
  | .networkTx => s.networkTx
  | .storage => s.storage

def nodeColumn (samples : List NodeSample) (f : NodeField) : List Int64 :=
  samples.map fun s => s.of f

theorem foldl_nodeAdd (samples : List NodeSample) (aver : NodeMetric) :
    samples.foldl NodeMetric.add aver =
      { aver with
        cpuList := aver.cpuList ++ (nodeColumn samples .cpu).map float64
        memoryList := aver.memoryList ++ (nodeColumn samples .memory).map float64
        storageList := aver.storageList ++ (nodeColumn samples .storage).map float64
        rxList := aver.rxList ++ (nodeColumn samples .networkRx).map float64
        txList := aver.txList ++ (nodeColumn samples .networkTx).map float64
        averCpu := aver.averCpu + (nodeColumn samples .cpu).sum
        averMemory := aver.averMemory + (nodeColumn samples .memory).sum
        averNetworkRx := aver.averNetworkRx + (nodeColumn samples .networkRx).sum
        averNetworkTx := aver.averNetworkTx + (nodeColumn samples .networkTx).sum
        averStorage := aver.averStorage + (nodeColumn samples .storage).sum } := by
  induction samples generalizing aver with
  | nil => simp [nodeColumn]
  | cons s samples ih =>
      rw [List.foldl_cons, ih]
      simp [NodeMetric.add, nodeColumn, NodeSample.of, Int64.add_assoc]

theorem foldl_nodeDeviate (samples : List NodeSample) (aver : NodeMetric) :
    samples.foldl NodeMetric.deviate aver =
      { aver with
        stDevCpu := aver.stDevCpu + dispersion (nodeColumn samples .cpu) aver.averCpu
        stDevMemory := aver.stDevMemory + dispersion (nodeColumn samples .memory) aver.averMemory
        stDevNetworkRx :=
          aver.stDevNetworkRx + dispersion (nodeColumn samples .networkRx) aver.averNetworkRx
        stDevNetworkTx :=
          aver.stDevNetworkTx + dispersion (nodeColumn samples .networkTx) aver.averNetworkTx +
            dispersion (nodeColumn samples .storage) aver.averStorage } := by
  induction samples generalizing aver with
  | nil => simp [nodeColumn, dispersion]
  | cons s samples ih =>
      rw [List.foldl_cons, ih]
      simp [NodeMetric.deviate, nodeColumn, NodeSample.of, dispersion, add_assoc, add_left_comm]

/-- The record after the second pass, before the final divisions. -/
def nodeSums (config : Config) (samples : List NodeSample) : NodeMetric :=
  let column := nodeColumn samples
  let aver := fun f => (column f).sum / config.countNumber
  { averCpu := aver .cpu
    averMemory := aver .memory
    averStorage := aver .storage
    averNetworkRx := aver .networkRx
    averNetworkTx := aver .networkTx
    stDevCpu := dispersion (column .cpu) (aver .cpu)
    stDevMemory := dispersion (column .memory) (aver .memory)
    stDevNetworkRx := dispersion (column .networkRx) (aver .networkRx)
    stDevNetworkTx := dispersion (column .networkTx) (aver .networkTx) +
      dispersion (column .storage) (aver .storage)
    memoryList := (column .memory).map float64
    cpuList := (column .cpu).map float64
    storageList := (column .storage).map float64
    rxList := (column .networkRx).map float64
    txList := (column .networkTx).map float64 }

theorem nodeStatistics_eq {config : Config} (hcount : config.countNumber ≠ 0)
    {rows : List (List Cell)} {samples : List NodeSample}
    (hread : rows.mapM nodeSample = .ok samples) :
    nodeStatistics config rows = .ok ((nodeSums config samples).scale config) := by
  unfold nodeStatistics NodeMetric.average
  simp only [overRows_eq_foldl hread, divInt64_of_ne hcount, ok_bind, pure_eq_ok, foldl_nodeAdd,
    foldl_nodeDeviate]
  simp [nodeSums]

/-! ## GPUs -/

/-- The column of a metric. -/
def GPUSample.of (s : GPUSample) : GPUField → Int64
  | .fanSpeed => s.fan
  | .memory => s.memory
  | .rx => s.rx
  | .tx => s.tx
  | .power => s.power
  | .temp => s.temp
  | .util => s.util

def gpuColumn (samples : List GPUSample) (f : GPUField) : List Int64 :=
  samples.map fun s => s.of f

theorem foldl_gpuAdd (samples : List GPUSample) (aver : GPUMetric) :
    samples.foldl GPUMetric.add aver =
      { aver with
        gpuUtilList := aver.gpuUtilList ++ (gpuColumn samples .util).map float64
        gpuMemoryList := aver.gpuMemoryList ++ (gpuColumn samples .memory).map float64
        fanSpeedList := aver.fanSpeedList ++ (gpuColumn samples .fanSpeed).map float64
        powerList := aver.powerList ++ (gpuColumn samples .power).map float64
        rxList := aver.rxList ++ (gpuColumn samples .rx).map float64
        txList := aver.txList ++ (gpuColumn samples .tx).map float64
        averFanSpeed := aver.averFanSpeed + (gpuColumn samples .fanSpeed).sum
        averMemory := aver.averMemory + (gpuColumn samples .memory).sum
        averPower := aver.averPower + (gpuColumn samples .power).sum
        averRX := aver.averRX + (gpuColumn samples .rx).sum
        averTX := aver.averTX + (gpuColumn samples .tx).sum
        averTemp := aver.averTemp + (gpuColumn samples .temp).sum
        averUtil := aver.averUtil + (gpuColumn samples .util).sum } := by
  induction samples generalizing aver with
  | nil => simp [gpuColumn]
  | cons s samples ih =>
      rw [List.foldl_cons, ih]
      simp [GPUMetric.add, gpuColumn, GPUSample.of, int64_add_swap]

theorem foldl_gpuDeviate (samples : List GPUSample) (aver : GPUMetric) :
    samples.foldl GPUMetric.deviate aver =
      { aver with
        stDevFanSpeed :=
          aver.stDevFanSpeed + dispersion (gpuColumn samples .fanSpeed) aver.averFanSpeed
        stDevMemory := aver.stDevMemory + dispersion (gpuColumn samples .memory) aver.averMemory
        stDevPower := aver.stDevPower + dispersion (gpuColumn samples .power) aver.averPower
        stDevRX := aver.stDevRX + dispersion (gpuColumn samples .rx) aver.averRX
        stDevTX := aver.stDevTX + dispersion (gpuColumn samples .tx) aver.averTX
        stDevTemp := aver.stDevTemp + dispersion (gpuColumn samples .temp) aver.averTemp
        stDevUtil := aver.stDevUtil + dispersion (gpuColumn samples .util) aver.averUtil } := by
  induction samples generalizing aver with
  | nil => simp [gpuColumn, dispersion]
  | cons s samples ih =>
      rw [List.foldl_cons, ih]
      simp [GPUMetric.deviate, gpuColumn, GPUSample.of, dispersion, add_assoc]

/-- The record after the second pass, before the final divisions. -/
def gpuSums (config : Config) (samples : List GPUSample) : GPUMetric :=
  let column := gpuColumn samples
  let aver := fun f => (column f).sum / config.countNumber
  { averMemory := aver .memory
    averUtil := aver .util
    averFanSpeed := aver .fanSpeed
    averPower := aver .power
    averTemp := aver .temp
    averRX := aver .rx
    averTX := aver .tx
    stDevMemory := dispersion (column .memory) (aver .memory)
    stDevUtil := dispersion (column .util) (aver .util)
    stDevFanSpeed := dispersion (column .fanSpeed) (aver .fanSpeed)
    stDevPower := dispersion (column .power) (aver .power)
    stDevTemp := dispersion (column .temp) (aver .temp)
    stDevRX := dispersion (column .rx) (aver .rx)
    stDevTX := dispersion (column .tx) (aver .tx)
    gpuUtilList := (column .util).map float64
    fanSpeedList := (column .fanSpeed).map float64
    gpuMemoryList := (column .memory).map float64
    powerList := (column .power).map float64
    rxList := (column .rx).map float64
    txList := (column .tx).map float64 }

theorem gpuStatistics_eq {config : Config} (hcount : config.countNumber ≠ 0)
    {rows : List (List Cell)} {samples : List GPUSample}
    (hread : rows.mapM gpuSample = .ok samples) :
    gpuStatistics config rows = .ok ((gpuSums config samples).scale config) := by
  unfold gpuStatistics GPUMetric.average
  simp only [overRows_eq_foldl hread, divInt64_of_ne hcount, ok_bind, pure_eq_ok, foldl_gpuAdd,
    foldl_gpuDeviate]
  simp [gpuSums]

/-! ## Pods -/

/-- The column of a metric, without the CPU's. -/
def PodSample.of (s : PodSample) : PodField → Int64
  | .cpu => 0
  | .gpuMemory => s.gpuMemory
  | .memory => s.memory
  | .networkRx => s.networkRx
  | .networkTx => s.networkTx
  | .storage => s.storage

def podColumn (samples : List PodSample) (f : PodField) : List Int64 :=
  samples.map fun s => s.of f

/-- The CPU column. -/
def podCPUColumn (samples : List PodSample) : List ℚ := samples.map PodSample.cpu

theorem foldl_podAdd (samples : List PodSample) (aver : PodMetric) :
    samples.foldl PodMetric.add aver =
      { aver with
        cpuList := aver.cpuList ++ podCPUColumn samples
        gpuMemoryList := aver.gpuMemoryList ++ (podColumn samples .gpuMemory).map float64
        rxList := aver.rxList ++ (podColumn samples .networkRx).map float64
        txList := aver.txList ++ (podColumn samples .networkTx).map float64
        storageList := aver.storageList ++ (podColumn samples .storage).map float64
        memoryList := aver.memoryList ++ (podColumn samples .memory).map float64
        averCPU := aver.averCPU + (podCPUColumn samples).sum
        averGPUMemory := aver.averGPUMemory + (podColumn samples .gpuMemory).sum
        averNetworkRx := aver.averNetworkRx + (podColumn samples .networkRx).sum
        averNetworkTx := aver.averNetworkTx + (podColumn samples .networkTx).sum
        averMemory := aver.averMemory + (podColumn samples .memory).sum
        averStorage := aver.averStorage + (podColumn samples .storage).sum } := by
  induction samples generalizing aver with
  | nil => simp [podColumn, podCPUColumn]
  | cons s samples ih =>
      rw [List.foldl_cons, ih]
      simp [PodMetric.add, podColumn, podCPUColumn, PodSample.of, int64_add_swap, add_assoc,
        add_left_comm]

theorem foldl_podDeviate (samples : List PodSample) (aver : PodMetric) :
    samples.foldl PodMetric.deviate aver =
      { aver with
        stDevCPU :=
          aver.stDevCPU + ((podCPUColumn samples).map fun x => (x - aver.averCPU) ^ 2).sum
        stDevGPUMemory :=
          aver.stDevGPUMemory + dispersion (podColumn samples .gpuMemory) aver.averGPUMemory
        stDevMemory := aver.stDevMemory + dispersion (podColumn samples .memory) aver.averMemory
        stDevNetworkRx :=
          aver.stDevNetworkRx + dispersion (podColumn samples .networkRx) aver.averNetworkRx
        stDevNetworkTx :=
          aver.stDevNetworkTx + dispersion (podColumn samples .networkTx) aver.averNetworkTx
        stDevStorage :=
          aver.stDevStorage + dispersion (podColumn samples .storage) aver.averStorage } := by
  induction samples generalizing aver with
  | nil => simp [podColumn, podCPUColumn, dispersion]
  | cons s samples ih =>
      rw [List.foldl_cons, ih]
      simp [PodMetric.deviate, podColumn, podCPUColumn, PodSample.of, dispersion, add_assoc]

/-- The record after the second pass, before the final divisions. -/
def podSums (config : Config) (samples : List PodSample) : PodMetric :=
  let column := podColumn samples
  let aver := fun f => (column f).sum / config.countNumber
  let averCPU := (podCPUColumn samples).sum / float64 config.countNumber
  { averMemory := aver .memory
    averGPUMemory := aver .gpuMemory
    averCPU := averCPU
    averStorage := aver .storage
    averNetworkRx := aver .networkRx
    averNetworkTx := aver .networkTx
    stDevMemory := dispersion (column .memory) (aver .memory)
    stDevGPUMemory := dispersion (column .gpuMemory) (aver .gpuMemory)
    stDevCPU := ((podCPUColumn samples).map fun x => (x - averCPU) ^ 2).sum
    stDevStorage := dispersion (column .storage) (aver .storage)
    stDevNetworkRx := dispersion (column .networkRx) (aver .networkRx)
    stDevNetworkTx := dispersion (column .networkTx) (aver .networkTx)
    memoryList := (column .memory).map float64
    gpuMemoryList := (column .gpuMemory).map float64
    cpuList := podCPUColumn samples
    storageList := (column .storage).map float64
    rxList := (column .networkRx).map float64
    txList := (column .networkTx).map float64 }

theorem podStatistics_eq {config : Config} (hcount : config.countNumber ≠ 0)
    {rows : List (List Cell)} {samples : List PodSample}
    (hread : rows.mapM podSample = .ok samples) :
    podStatistics config rows = .ok ((podSums config samples).scale config) := by
  unfold podStatistics PodMetric.average
  simp only [overRows_eq_foldl hread, divInt64_of_ne hcount, ok_bind, pure_eq_ok, foldl_podAdd,
    foldl_podDeviate]
  simp [podSums]

end MetricCollector.Analyzer
