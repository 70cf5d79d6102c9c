import MetricCollector.Grpcs

/-!
# The analyzer's records

The flags, the averages that a history is reduced to, and the degradation
tree, after `analyzer/types.go`.

The tree is built through pointers.  An entry that may be `nil` is an
`Option`, and a function that fills an entry takes it and returns it.
-/

namespace MetricCollector.Analyzer

open GoLib Grpcs

/-- What the analyzer runs with: its flags and `math.Sqrt`. -/
structure Config where
  countNumber : Int64 := 30
  confidenceInterval : ℚ := 95
  sqrt : ℚ → ℚ

/-- `confidencenum`, as `Analyzer` sets it before anything reads it. -/
def Config.confidencenum (config : Config) : ℚ :=
  if config.confidenceInterval = 90 then 1.645
  else if config.confidenceInterval = 95 then 1.96
  else if config.confidenceInterval = 99 then 2.58
  else if config.confidenceInterval = 99.9 then 3.3
  else 1.96

/-- `math.Sqrt(float64(*CountNumber))`. -/
def Config.sqrtCount (config : Config) : ℚ := config.sqrt config.countNumber.toInt

/-! ## The averages -/

/-- `analyzer.NodeMetric`. -/
structure NodeMetric where
  averCpu : Int64 := 0
  averMemory : Int64 := 0
  averStorage : Int64 := 0
  averNetworkRx : Int64 := 0
  averNetworkTx : Int64 := 0
  stDevCpu : ℚ := 0
  stDevMemory : ℚ := 0
  stDevStorage : ℚ := 0
  stDevNetworkRx : ℚ := 0
  stDevNetworkTx : ℚ := 0
  memoryList : List ℚ := []
  cpuList : List ℚ := []
  storageList : List ℚ := []
  rxList : List ℚ := []
  txList : List ℚ := []
deriving DecidableEq

/-- `analyzer.GPUMetric`. -/
structure GPUMetric where
  averMemory : Int64 := 0
  averUtil : Int64 := 0
  averFanSpeed : Int64 := 0
  averPower : Int64 := 0
  averTemp : Int64 := 0
  averRX : Int64 := 0
  averTX : Int64 := 0
  stDevMemory : ℚ := 0
  stDevUtil : ℚ := 0
  stDevFanSpeed : ℚ := 0
  stDevPower : ℚ := 0
  stDevTemp : ℚ := 0
  stDevRX : ℚ := 0
  stDevTX : ℚ := 0
  gpuUtilList : List ℚ := []
  fanSpeedList : List ℚ := []
  gpuMemoryList : List ℚ := []
  powerList : List ℚ := []
  rxList : List ℚ := []
  txList : List ℚ := []
deriving DecidableEq

/-- `analyzer.PodMetric`. -/
structure PodMetric where
  averMemory : Int64 := 0
  averGPUMemory : Int64 := 0
  averCPU : ℚ := 0
  averStorage : Int64 := 0
  averNetworkRx : Int64 := 0
  averNetworkTx : Int64 := 0
  stDevMemory : ℚ := 0
  stDevGPUMemory : ℚ := 0
  stDevCPU : ℚ := 0
  stDevStorage : ℚ := 0
  stDevNetworkRx : ℚ := 0
  stDevNetworkTx : ℚ := 0
  memoryList : List ℚ := []
  gpuMemoryList : List ℚ := []
  cpuList : List ℚ := []
  storageList : List ℚ := []
  rxList : List ℚ := []
  txList : List ℚ := []
deriving DecidableEq

/-- `analyzer.Regression`, without the columns that nothing fills. -/
structure Regression where
  memory : List ℚ := []
  gpuMemory : List ℚ := []
  cpu : List ℚ := []
  storage : List ℚ := []
  rx : List ℚ := []
  tx : List ℚ := []
deriving DecidableEq

/-! ## The degradation tree -/

/-- `analyzer.DegradationPod`. -/
structure DegradationPod where
  podUID : String := ""
  isIncrease : Bool := false
  isDegradation : Bool := false
deriving DecidableEq, Repr

/-- `analyzer.DegradationGPU`. -/
structure DegradationGPU where
  gpuUUID : String := ""
  isDegradation : Bool := false
  isIncrease : Bool := false
  pod : List (Option DegradationPod) := []
deriving DecidableEq, Repr

/-- `analyzer.Degradation`. -/
structure Degradation where
  nodeName : String := ""
  isIncrease : Bool := false
  isDegradation : Bool := false
  gpu : List (Option DegradationGPU) := []
deriving DecidableEq, Repr

end MetricCollector.Analyzer
