import MetricCollector.Storage

/-!
# The kubelet's summary

The records of `stats/types.go`, as far as the decoder reads them.  A section
or a counter that JSON may leave out is an option.
-/

namespace MetricCollector.Stats

open Storage

/-- `stats.CPUStats`. -/
structure CPUStats where
  time : Time := 0
  usageNanoCores : Option UInt64 := none
deriving DecidableEq, Repr

/-- `stats.MemoryStats`. -/
structure MemoryStats where
  time : Time := 0
  availableBytes : Option UInt64 := none
  usageBytes : Option UInt64 := none
  workingSetBytes : Option UInt64 := none
deriving DecidableEq, Repr

/-- `stats.InterfaceStats`. -/
structure InterfaceStats where
  rxBytes : Option UInt64 := none
  txBytes : Option UInt64 := none
deriving DecidableEq, Repr

/-- `stats.NetworkStats`. -/
structure NetworkStats where
  time : Time := 0
  interfaces : List InterfaceStats := []
deriving DecidableEq, Repr

/-- `stats.FsStats`. -/
structure FsStats where
  time : Time := 0
  availableBytes : Option UInt64 := none
  capacityBytes : Option UInt64 := none
  usedBytes : Option UInt64 := none
deriving DecidableEq, Repr

/-- `stats.NodeStats`. -/
structure NodeStats where
  nodeName : String := ""
  cpu : Option CPUStats := none
  memory : Option MemoryStats := none
  network : Option NetworkStats := none
  fs : Option FsStats := none
deriving DecidableEq, Repr

/-- `stats.PodReference`. -/
structure PodReference where
  name : String := ""
  podNamespace : String := ""
deriving DecidableEq, Repr

/-- `stats.PodStats`. -/
structure PodStats where
  podRef : PodReference := {}
  cpu : Option CPUStats := none
  memory : Option MemoryStats := none
  network : Option NetworkStats := none
  ephemeralStorage : Option FsStats := none
deriving DecidableEq, Repr

/-- `stats.Summary`. -/
structure Summary where
  node : NodeStats := {}
  pods : List PodStats := []
  ip : String := ""
deriving DecidableEq, Repr

end MetricCollector.Stats
