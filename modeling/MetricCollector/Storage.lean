import MetricCollector.Resource

/-!
# The stored records

The records of `storage/types.go`.  A time is an instant in nanoseconds, and
the zero value of `time.Time` is instant `0`.  A bus ID is a Go string that
holds 32 raw bytes, so it is kept as its bytes.
-/

namespace MetricCollector.Storage

open Resource

/-- An instant; `0` is the zero value of `time.Time`. -/
abbrev Time := Int

/-- `storage.MetricsPoint`. -/
structure MetricsPoint where
  timestamp : Time := 0
  cpuUsageNanoCores : Quantity := {}
  memoryUsageBytes : Quantity := {}
  memoryAvailableBytes : Quantity := {}
  memoryWorkingSetBytes : Quantity := {}
  networkRxBytes : Quantity := {}
  networkTxBytes : Quantity := {}
  fsAvailableBytes : Quantity := {}
  fsCapacityBytes : Quantity := {}
  fsUsedBytes : Quantity := {}
deriving DecidableEq, Repr

/-- `storage.NodeMetricsPoint`. -/
structure NodeMetricsPoint where
  name : String := ""
  metricsPoint : MetricsPoint := {}
deriving DecidableEq, Repr

/-- `storage.PodMetricsPoint`, whose containers are never filled. -/
structure PodMetricsPoint where
  name : String := ""
  podNamespace : String := ""
  metricsPoint : MetricsPoint := {}
deriving DecidableEq, Repr

/-- `storage.MetricsBatch`. -/
structure MetricsBatch where
  ip : String := ""
  node : NodeMetricsPoint := {}
  pods : List PodMetricsPoint := []
deriving DecidableEq, Repr

/-- `storage.Collection`. -/
structure Collection where
  metricsbatchs : List MetricsBatch := []
deriving DecidableEq, Repr

/-- `storage.PodGPU`: a container that was seen on a GPU. -/
structure PodGPU where
  containerID : String := ""
  runningCheck : Bool := false
  healthCheck : Bool := false
deriving DecidableEq, Repr

/-- `storage.GPUMAP`: the containers of one GPU. -/
structure GPUMAP where
  gpuuuid : String := ""
  podMetric : List PodGPU := []
deriving DecidableEq, Repr

/-- The bytes of a bus ID. -/
abbrev BusID := List UInt8

/-- `storage.NvlinkStatus`: what one GPU finds behind its lanes. -/
structure NvlinkStatus where
  uuid : String := ""
  busID : BusID := []
  /-- A Go map: the number of lanes by bus ID. -/
  lanes : BusID → Option Int64 := fun _ => none
  p2pUUID : List String := []
  p2pDeviceType : List Int64 := []
  p2pBusID : List BusID := []

end MetricCollector.Storage
