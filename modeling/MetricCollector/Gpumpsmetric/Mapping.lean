import MetricCollector.Gpumpsmetric.Process
import MetricCollector.Influx
import MetricCollector.Storage

/-!
# Mapping pods to processes

What `Gpumpsmetric` does with the pod list and the process snapshot that its
retry loop accepted, one definition for each of its loops:

* `fillPods` writes one slot of `gpumpsmap` for each annotated pod;
* `mapPods` looks for a process of each slot's container and fills `GPUPod`;
* `trackPods` keeps the books on the containers seen on the GPU;
* `writePods` writes one `podmetric` point for each slot.

`mapPods` appends on a match but addresses `GPUPod` by the slot's index, so it
stands or falls with every slot having a match: `mapping_complete_iff`.
-/

namespace MetricCollector.Gpumpsmetric

open GoLib Grpcs Influx Storage Resource

/-! ## Pods -/

/-- `v1.ContainerStatus`: its ID and, when it runs, since when. -/
structure ContainerStatus where
  containerID : String
  running : Option Time
deriving DecidableEq, Repr

/-- What `Gpumpsmetric` reads of a `v1.Pod`. -/
structure Pod where
  uid : String := ""
  name : String := ""
  annotations : List (String × String) := []
  containers : List String := []
  containerStatuses : List ContainerStatus := []
deriving DecidableEq, Repr

/-- `Annotations["UUID"]`. -/
def Pod.annotation (pod : Pod) : String := (pod.annotations.lookup "UUID").getD ""

/-- The entries of the annotation at which the two counting passes stop. -/
def Pod.matching (pod : Pod) (uuid : String) : List String :=
  let annotationUUID := split ',' pod.annotation
  if 1 < annotationUUID.length then annotationUUID.filter (· = uuid)
  else if pod.annotation = uuid then [pod.annotation]
  else []

/-- The pods that the passes over the list stop at, once for each entry. -/
def annotated (uuid : String) (pods : List Pod) : List Pod :=
  pods.flatMap fun pod => (pod.matching uuid).map fun _ => pod

/-- `GpuMpsMap`, without the fields that nothing sets. -/
structure GpuMpsMap where
  uid : String := ""
  container : String := ""
  containerID : String := ""
  pod : String := ""
  startTime : Time := 0
deriving DecidableEq, Repr

/-- A slot that nothing was written to. -/
def GpuMpsMap.empty : GpuMpsMap := {}

/-- One write of the filling pass, to the slot `podnum`. -/
def fillSlot (acc : List GpuMpsMap × Nat) (pod : Pod) : Exec (List GpuMpsMap × Nat) := do
  let slot ← index .gpumpsmetric acc.1 acc.2
  let container ← index .gpumpsmetric pod.containers 0
  let status ← index .gpumpsmetric pod.containerStatuses 0
  let startedAt ← deref .gpumpsmetric status.running
  let slot := { slot with
    uid := pod.uid
    container := container
    pod := pod.name
    startTime := startedAt
    containerID := status.containerID }
  return (acc.1.set acc.2 slot, acc.2 + 1)

/-- The filling pass over `gpumpsmap`, an array of 48 slots. -/
def fillPods (uuid : String) (runpodlist : List Pod) : Exec (List GpuMpsMap × Nat) :=
  runpodlist.foldlM
    (fun acc pod => (pod.matching uuid).foldlM (fun acc _ => fillSlot acc pod) acc)
    (List.replicate 48 GpuMpsMap.empty, 0)

/-! ## The mapping loop -/

/-- The loop over the decoded pods: the last one with the pod's name counts. -/
def withUsage (pods : List PodMetricsPoint) (entry : PodMetric) : PodMetric :=
  pods.foldl (fun entry pod =>
    if entry.podName = pod.name then
      { entry with
        podCPU := pod.metricsPoint.cpuUsageNanoCores.milliValue.toInt
        podStorage := pod.metricsPoint.fsUsedBytes.getValue
        podNetworkTX := pod.metricsPoint.networkTxBytes.getValue
        podNetworkRX := pod.metricsPoint.networkRxBytes.getValue
        podMemory := pod.metricsPoint.memoryUsageBytes.getValue }
    else entry) entry

/-- The body of a match: append an entry, fill the one at `i` from process `k`. -/
def matchProcess (mps : Processinfo) (data : Collection) (slot : GpuMpsMap) (i k : Nat)
    (containerid : String) (gpuPod : List PodMetric) : Exec (List PodMetric) := do
  let fresh : PodMetric := {}
  let gpuPod := gpuPod ++ [fresh]
  let entry ← index .gpumpsmetric gpuPod i
  let process ← index .gpumpsmetric mps.nvmlprocess k
  let name ← index .gpumpsmetric mps.name k
  let entry := { entry with
    podGPUMemory := process.usedGpuMemory.toInt64
    podPid := process.pid
    podName := slot.pod
    processName := name
    podUid := slot.uid
    containerID := containerid }
  let batch ← index .gpumpsmetric data.metricsbatchs 0
  return gpuPod.set i (withUsage batch.pods entry)

/-- The scan of the snapshot for slot `i`, over the indices that are left. -/
def scanProcesses (mps : Processinfo) (data : Collection) (slot : GpuMpsMap) (i : Nat)
    (gpuPod : List PodMetric) : List Nat → Exec (List PodMetric)
  | [] => return gpuPod
  | k :: ks => do
      let id ← index .gpumpsmetric mps.containerID k
      if id = "" then scanProcesses mps data slot i gpuPod ks
      else
        let containerid ← index .gpumpsmetric (split '/' slot.containerID) 2
        if id = containerid then matchProcess mps data slot i k containerid gpuPod
        else scanProcesses mps data slot i gpuPod ks

/-- One turn of the mapping loop. -/
def mapTurn (mps : Processinfo) (data : Collection) (gpumpsmap : List GpuMpsMap)
    (gpuPod : List PodMetric) (i : Nat) : Exec (List PodMetric) := do
  let slot ← index .gpumpsmetric gpumpsmap i
  scanProcesses mps data slot i gpuPod (List.range mps.containerID.length)

/-- The mapping loop. -/
def mapPods (mps : Processinfo) (data : Collection) (gpumpsmap : List GpuMpsMap) (podnum : Nat)
    (gpuPod : List PodMetric) : Exec (List PodMetric) :=
  (List.range podnum).foldlM (mapTurn mps data gpumpsmap) gpuPod

/-! ## The books on the containers -/

/-- One turn of the middle loop: mark a known container as running, or add it. -/
def trackPod (acc : List PodGPU × Int64) (entry : PodMetric) : List PodGPU × Int64 :=
  match acc.1.findIdx? fun pod => entry.containerID = pod.containerID with
  | some j => (acc.1.modify j fun pod => { pod with runningCheck := true }, acc.2)
  | none => (acc.1 ++ [{ containerID := entry.containerID }], acc.2 + 1)

/-- The three loops over `podmap`. -/
def trackPods (podmap : List PodGPU) (gpu : GrpcGPU) : List PodGPU × GrpcGPU :=
  let unchecked := podmap.map fun pod => { pod with runningCheck := false }
  let (tracked, assigned) := gpu.gpuPod.foldl trackPod (unchecked, gpu.gpuAssingment)
  let ended := tracked.countP fun pod => !pod.runningCheck && pod.healthCheck
  (tracked, { gpu with
    gpuAssingment := assigned
    gpuReturn := gpu.gpuReturn + Int64.ofNat ended })

/-! ## The points -/

/-- The `podmetric` point of an entry. -/
def podPoint (uuid : String) (entry : PodMetric) : Option Point :=
  newPoint "podmetric" [("UUID", uuid)]
    [("gpu_mps_process", .string entry.processName),
     ("gpu_mps_memory", .int64 entry.podGPUMemory),
     ("gpu_mps_pid", .uint32 entry.podPid),
     ("gpu_mps_pod", .string entry.podName),
     ("gpu_mps_networkrx", .int64 entry.podNetworkRX),
     ("gpu_mps_networktx", .int64 entry.podNetworkTX),
     ("gpu_mps_storage", .int64 entry.podStorage),
     ("gpu_mps_cpu", .float64 entry.podCPU),
     ("gpu_mps_nodememory", .int64 entry.podMemory),
     ("gpu_mps_uid", .string entry.podUid)]

/-- The write loop. -/
def writePods (uuid : String) (gpuPod : List PodMetric) (podnum : Nat) :
    Exec (List (Option Point)) :=
  (List.range podnum).mapM fun i => do
    let entry ← index .gpumpsmetric gpuPod i
    return podPoint uuid entry

/-- What a call of `Gpumpsmetric` leaves. -/
structure Collected where
  podnum : Nat
  gpu : GrpcGPU
  podmap : List PodGPU
  points : List (Option Point)
deriving DecidableEq

/-- `Gpumpsmetric` after its retry loop. -/
def collectPods (uuid : String) (data : Collection) (runpodlist : List Pod) (mps : Processinfo)
    (podmap : List PodGPU) (gpu : GrpcGPU) : Exec Collected := do
  let (gpumpsmap, podnum) ← fillPods uuid runpodlist
  let gpuPod ← mapPods mps data gpumpsmap podnum gpu.gpuPod
  let (podmap, gpu) := trackPods podmap { gpu with gpuPod := gpuPod }
  let points ← writePods uuid gpu.gpuPod podnum
  return { podnum := podnum, gpu := gpu, podmap := podmap, points := points }

end MetricCollector.Gpumpsmetric
