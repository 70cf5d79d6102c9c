import MetricCollector.Analyzer.Types

/-!
# The verdicts of the analyzer

The trend test and the threshold functions that turn averages into a verdict:
`0` for a degradation, `1` for none.  `2`, for too little data, is returned by
their callers only.

`nodeThreshold` and `gpuThreshold` compare each metric with a limit computed in
`int64` arithmetic, where a zero divisor is a fault.
-/

namespace MetricCollector.Analyzer

open GoLib Grpcs

/-- `int64(q)` for a `float64`: toward zero, and the least `int64` when the
result does not fit. -/
def truncInt64 (q : ℚ) : Int64 :=
  let t : Int := if 0 ≤ q then q.floor else q.ceil
  if -2 ^ 63 ≤ t ∧ t < 2 ^ 63 then Int64.ofInt t else Int64.minValue

/-- `float64(n)`. -/
def float64 (n : Int64) : ℚ := n.toInt

/-! ## The trend test -/

/-- `GetTrands`: the sign of the slope of `data`, which is newest first.  The
quotient of an empty list is not a number in the source and `0` here; both
answer `false`. -/
def getTrands (data : List ℚ) (average : ℚ) : Bool :=
  let positions := List.range data.length
  let datalenaver := (positions.map fun (i : Nat) => (i : ℚ)).sum / data.length
  let numerator := (positions.map fun (i : Nat) =>
    (data.getD (data.length - i - 1) 0 - average) * ((i : ℚ) - datalenaver)).sum
  let denominator := (positions.map fun (i : Nat) => ((i : ℚ) - datalenaver) ^ 2).sum
  decide (0 < numerator / denominator)

/-- `GPUTemperatureAnalysis`: `0` normal, `1` high, `2` very high. -/
def gpuTemperatureAnalysis (gpu : GrpcGPU) : Int64 :=
  if gpu.grpcGPUtemp.current < gpu.grpcGPUtemp.maxOperating then 0
  else if gpu.grpcGPUtemp.maxOperating ≤ gpu.grpcGPUtemp.current ∧
      gpu.grpcGPUtemp.current < gpu.grpcGPUtemp.threshold then 1
  else 2

/-! ## The threshold of a node and of a GPU -/

/-- `aver * int64(stDev) / int64(math.Sqrt(float64(*CountNumber)))`. -/
def Config.limit (config : Config) (frame : Frame) (aver : Int64) (stDev : ℚ) : Exec Int64 :=
  divInt64 frame (aver * truncInt64 stDev) (truncInt64 config.sqrtCount)

/-- The verdict on a metric above its limit. -/
def trendVerdict (data : List ℚ) (aver : Int64) : Int64 :=
  if getTrands data (float64 aver) then 0 else 1

/-- `NodeThreshold`. -/
def nodeThreshold (config : Config) (aver : NodeMetric) (curr : GrpcNode) : Exec Int64 := do
  let limit := config.limit .nodeThreshold
  if (← limit aver.averCpu aver.stDevCpu) < curr.grpcNodeCPU then
    return trendVerdict aver.cpuList aver.averCpu
  else if (← limit aver.averMemory aver.stDevMemory) < curr.grpcNodeMemory then
    return trendVerdict aver.memoryList aver.averMemory
  else if (← limit aver.averNetworkRx aver.stDevNetworkRx) < curr.nodeNetworkRX then
    return trendVerdict aver.rxList aver.averNetworkRx
  else if (← limit aver.averNetworkTx aver.stDevNetworkTx) < curr.nodeNetworkTX then
    return trendVerdict aver.txList aver.averNetworkTx
  else if (← limit aver.averStorage aver.stDevStorage) < curr.grpcNodeStorage then
    return trendVerdict aver.storageList aver.averStorage
  else return 1

/-- `GPUThreshold`. -/
def gpuThreshold (config : Config) (aver : GPUMetric) (curr : GrpcGPU) : Exec Int64 := do
  let limit := config.limit .gpuThreshold
  if (← limit aver.averFanSpeed aver.stDevFanSpeed) < curr.fanSpeed then
    return trendVerdict aver.fanSpeedList aver.averFanSpeed
  else if (← limit aver.averMemory aver.stDevMemory) < curr.grpcGPUused then
    return trendVerdict aver.gpuMemoryList aver.averMemory
  else if (← limit aver.averRX aver.stDevRX) < curr.gpuRX then
    return trendVerdict aver.rxList aver.averRX
  else if (← limit aver.averTX aver.stDevTX) < curr.gpuTX then
    return trendVerdict aver.txList aver.averTX
  else if (← limit aver.averPower aver.stDevPower) < curr.grpcGPUpower then
    return trendVerdict aver.powerList aver.averPower
  else if (← limit aver.averTemp aver.stDevTemp) < curr.grpcGPUtemp.current then
    return if gpuTemperatureAnalysis curr = 0 then 0 else 1
  else if (← limit aver.averUtil aver.stDevUtil) < curr.grpcGPUutil then
    return trendVerdict aver.gpuUtilList aver.averUtil
  else return 1

/-- A threshold faults where it divides. -/
theorem nodeThreshold_faultsIn {p : Frame → Prop} (hp : p .nodeThreshold) (config : Config)
    (aver : NodeMetric) (curr : GrpcNode) : FaultsIn p (nodeThreshold config aver curr) := by
  have hlimit : ∀ aver stDev, FaultsIn p (config.limit .nodeThreshold aver stDev) :=
    fun aver stDev => faultsIn_divInt64 hp _ _
  unfold nodeThreshold
  refine faultsIn_bind (hlimit _ _) fun cpu => faultsIn_ite (faultsIn_ok _) ?_
  refine faultsIn_bind (hlimit _ _) fun memory => faultsIn_ite (faultsIn_ok _) ?_
  refine faultsIn_bind (hlimit _ _) fun rx => faultsIn_ite (faultsIn_ok _) ?_
  refine faultsIn_bind (hlimit _ _) fun tx => faultsIn_ite (faultsIn_ok _) ?_
  exact faultsIn_bind (hlimit _ _) fun storage => faultsIn_ite (faultsIn_ok _) (faultsIn_ok _)

end MetricCollector.Analyzer
