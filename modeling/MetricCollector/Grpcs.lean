import MetricCollector.GoLib.Runtime
import Mathlib.Algebra.Order.Field.Rat

/-!
# The shared records

The records of `grpcs/types.go`, which every package of the collector reads
or fills.  A field's default is Go's zero value, so `{}` is the value that
`&GrpcGPU{}` points to.  `int` and `int64` are both 64 bits wide on the
platforms the collector is built for, and `float64` is modelled by exact
rational numbers.

`Frame` names the functions of the collector that can fault.
-/

namespace MetricCollector

open GoLib

/-- The functions whose code can raise a run-time fault. -/
inductive Frame where
  | nodeDegradation
  | gpuDegradation
  | podDegradation
  | getNodeMetric
  | getGPUMetrics
  | getPodMetric
  | getPodPattern
  | nodeThreshold
  | gpuThreshold
  | getgpuprocess
  | gpumpsmetric
  | decodeMemory
  | decodeNetwork
  | decodeFs
  | decodeBatch
  | getInitData
  | makeRequestAndGetValue
  | collectNode
  | getNvlinkInfo
  | gpumetric
  | getRXTXData
  | getGPUPci
  | getGPU
  | addToPodCustomMetricServer
deriving DecidableEq, Repr

/-- The functions of the analyzer that query the database, and what they call. -/
def Frame.isQuery (frame : Frame) : Prop :=
  frame ∈ [getNodeMetric, getGPUMetrics, getPodMetric, getPodPattern, nodeThreshold, gpuThreshold]

/-- The outcome of one call into the collector. -/
abbrev Exec (α : Type) := Go Frame α

namespace Grpcs

/-- `grpcs.PodMetric`: one GPU process of a pod. -/
structure PodMetric where
  podUid : String := ""
  podName : String := ""
  processName : String := ""
  podPid : UInt32 := 0
  podGPUMemory : Int64 := 0
  podMemory : Int64 := 0
  podCPU : ℚ := 0
  podNetworkRX : Int64 := 0
  podNetworkTX : Int64 := 0
  podStorage : Int64 := 0
  containerID : String := ""
deriving DecidableEq, Repr

/-- `grpcs.NvLink`: a pair of linked GPUs and the number of its lanes. -/
structure NvLink where
  gpu1UUID : String := ""
  gpu2UUID : String := ""
  countLink : Int64 := 0
deriving DecidableEq, Repr

/-- `grpcs.GPUTemperature`, in degrees. -/
structure GPUTemperature where
  current : Int64 := 0
  threshold : Int64 := 0
  shutdown : Int64 := 0
  maxOperating : Int64 := 0
deriving DecidableEq, Repr

/-- `grpcs.GrpcGPU`. -/
structure GrpcGPU where
  grpcGPUUUID : String := ""
  grpcGPUtotal : Int64 := 0
  grpcGPUfree : Int64 := 0
  grpcGPUused : Int64 := 0
  grpcGPUName : String := ""
  grpcGPUIndex : Int64 := 0
  grpcGPUtemp : GPUTemperature := {}
  grpcGPUpower : Int64 := 0
  grpcGPUmpscount : Int64 := 0
  grpcGPUtotalpower : Int64 := 0
  grpcGPUflops : Int64 := 0
  grpcGPUarch : Int64 := 0
  grpcGPUutil : Int64 := 0
  fanSpeed : Int64 := 0
  gpuPod : List PodMetric := []
  gpuRX : Int64 := 0
  gpuTX : Int64 := 0
  gpuAssingment : Int64 := 0
  gpuReturn : Int64 := 0
deriving DecidableEq, Repr

/-- `grpcs.GrpcNode`. -/
structure GrpcNode where
  grpcNodeName : String := ""
  grpcNodetotalCPU : Int64 := 0
  grpcNodeCPU : Int64 := 0
  grpcNodeCount : Int64 := 0
  grpcNodeTotalMemory : Int64 := 0
  grpcNodeMemory : Int64 := 0
  grpcNodeTotalStorage : Int64 := 0
  grpcNodeStorage : Int64 := 0
  nodeNetworkRX : Int64 := 0
  nodeNetworkTX : Int64 := 0
  totalPodnum : Int64 := 0
  grpcNodeUUID : List String := []
  nodeGPU : List GrpcGPU := []
  nvLinkInfo : List NvLink := []
deriving DecidableEq, Repr

end Grpcs

end MetricCollector
