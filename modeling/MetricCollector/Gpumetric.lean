import MetricCollector.Analyzer.Statistics

/-!
# The points that `Gpumetric` writes

`gpuPoint` and `nodePoint` are the `gpumetric` and `nodemetric` points of one
collection cycle, and the analyzer reads them back by position.  A `select *`
row has its columns in key order, so the two sides agree only if each position
the reader uses is the rank of the key the writer used.

* `nodeSample_of_nodePoint` is what the reader of `nodemetric` gets: it takes
  the two network counters for each other.
* `gpuSample_of_gpuPoint`: the reader of `gpumetric` runs past the row.
-/

namespace MetricCollector.Gpumetric

open GoLib Grpcs Influx Analyzer

/-- `%v` of a `grpcs.GPUTemperature`. -/
def sprintTemperature (temp : GPUTemperature) : String :=
  "\x7b" ++ formatInt temp.current ++ " " ++ formatInt temp.threshold ++ " " ++
    formatInt temp.shutdown ++ " " ++ formatInt temp.maxOperating ++ "\x7d"

/-- `%v` of a `[]string`. -/
def sprintStrings (items : List String) : String := "[" ++ " ".intercalate items ++ "]"

/-- The `gpumetric` point of the GPU with index `i`.  The fields `PciRx` and
`PciTx` are commented out in the source. -/
def gpuPoint (i : Int64) (gpu : GrpcGPU) : Option Point :=
  newPoint "gpumetric" [("UUID", gpu.grpcGPUUUID)]
    [("Index", .int i),
     ("GPUName", .string gpu.grpcGPUName),
     ("memory(total)", .int64 gpu.grpcGPUtotal),
     ("memory(free)", .int64 gpu.grpcGPUfree),
     ("memory(used)", .int64 gpu.grpcGPUused),
     ("utilization", .int gpu.grpcGPUutil),
     ("Power", .int gpu.grpcGPUpower),
     ("temperature", .other (sprintTemperature gpu.grpcGPUtemp)),
     ("Podnum", .int (Int64.ofNat gpu.gpuPod.length)),
     ("FanSpeed", .int gpu.fanSpeed)]

/-- The full `nodemetric` point. -/
def nodePoint (nodecpu nodememory : Int64) (nodename : String) (count : Int64)
    (gpuuuid : List String) (node : GrpcNode) : Option Point :=
  newPoint "nodemetric" []
    [("NodeCPU", .int64 nodecpu),
     ("NodeMemory", .int64 nodememory),
     ("uuid", .other (sprintStrings gpuuuid)),
     ("Count", .int count),
     ("NodeName", .string nodename),
     ("NodeStorage", .int64 node.grpcNodeStorage),
     ("NodeNetworkRX", .int64 node.nodeNetworkRX),
     ("NodeNetworkTX", .int64 node.nodeNetworkTX),
     ("totalpod", .int node.totalPodnum)]

/-- The `nodemetric` point of a cycle that finds no driver. -/
def shortNodePoint (nodecpu nodememory : Int64) (nodename : String) : Option Point :=
  newPoint "nodemetric" []
    [("NodeCPU", .int64 nodecpu),
     ("NodeMemory", .int64 nodememory),
     ("uuid", .other (sprintStrings [])),
     ("Count", .int 0),
     ("NodeName", .string nodename)]

/-! ## The `nodemetric` row -/

/-- The keys of a node point, in the order of its row. -/
def nodeColumns : List String :=
  ["Count", "NodeCPU", "NodeMemory", "NodeName", "NodeNetworkRX", "NodeNetworkTX", "NodeStorage",
    "totalpod", "uuid"]

theorem columns_of_nodePoint {nodecpu nodememory count : Int64} {nodename : String}
    {gpuuuid : List String} {node : GrpcNode} {pt : Point}
    (hpt : nodePoint nodecpu nodememory nodename count gpuuuid node = some pt) :
    pt.columns = nodeColumns := by
  rw [eq_of_newPoint hpt]
  show ["NodeCPU", "NodeMemory", "uuid", "Count", "NodeName", "NodeStorage", "NodeNetworkRX",
    "NodeNetworkTX", "totalpod"].insertionSort (· ≤ ·) = _
  decide

/-- A node point is always built, and its `totalpod` is the number of the node. -/
theorem exists_nodePoint (nodecpu nodememory : Int64) (nodename : String) (count : Int64)
    (gpuuuid : List String) (node : GrpcNode) :
    ∃ pt, nodePoint nodecpu nodememory nodename count gpuuuid node = some pt ∧
      pt.fields.lookup "totalpod" = some (.int node.totalPodnum) := by
  refine ⟨_, newPoint_of_keys (List.cons_ne_nil _ _) ?_, rfl⟩
  show ∀ key ∈ ["NodeCPU", "NodeMemory", "uuid", "Count", "NodeName", "NodeStorage",
    "NodeNetworkRX", "NodeNetworkTX", "totalpod"], _
  decide

/-- What `GetNodeMetric` parses from the row of a node point: `networkTx` is
the written `NodeNetworkRX` and `networkRx` the written `NodeNetworkTX`. -/
theorem nodeSample_of_nodePoint {nodecpu nodememory count : Int64} {nodename : String}
    {gpuuuid : List String} {node : GrpcNode} {pt : Point}
    (hpt : nodePoint nodecpu nodememory nodename count gpuuuid node = some pt)
    (printFloat : ℚ → String) (time : Cell) :
    nodeSample (selectStar printFloat time pt) = .ok
      { cpu := nodecpu
        memory := nodememory
        networkTx := node.nodeNetworkRX
        networkRx := node.nodeNetworkTX
        storage := node.grpcNodeStorage } := by
  have hindex : ∀ {i k cell}, nodeColumns[i]? = some k →
      (pt.cells printFloat).lookup k = some cell →
      index Frame.getNodeMetric (selectStar printFloat time pt) (i + 1) = .ok cell := by
    intro i k cell hcolumn hcell
    rw [← columns_of_nodePoint hpt] at hcolumn
    exact index_selectStar hcolumn hcell
  obtain rfl := eq_of_newPoint hpt
  have hcpu := hindex (show nodeColumns[1]? = some "NodeCPU" from rfl) rfl
  have hmemory := hindex (show nodeColumns[2]? = some "NodeMemory" from rfl) rfl
  have hrx := hindex (show nodeColumns[4]? = some "NodeNetworkRX" from rfl) rfl
  have htx := hindex (show nodeColumns[5]? = some "NodeNetworkTX" from rfl) rfl
  have hstorage := hindex (show nodeColumns[6]? = some "NodeStorage" from rfl) rfl
  unfold nodeSample
  rw [hcpu, ok_bind, hmemory, ok_bind, hrx, ok_bind, htx, ok_bind, hstorage, ok_bind]
  simp [stored]

/-- What the row check and the passes of `GetNodeMetric` take from a row is
what was written. -/
structure NodeRowAgrees (nodecpu nodememory : Int64) (node : GrpcNode) (row : List Cell) :
    Prop where
  check : ∃ cell, row[8]? = some cell ∧ cell.value = some (node.totalPodnum.toInt : ℚ)
  passes : nodeSample row = .ok
    { cpu := nodecpu
      memory := nodememory
      networkTx := node.nodeNetworkTX
      networkRx := node.nodeNetworkRX
      storage := node.grpcNodeStorage }

/-- The two sides of `nodemetric` agree when the exchanged counters are equal. -/
theorem nodeRow_agrees_iff {nodecpu nodememory count : Int64} {nodename : String}
    {gpuuuid : List String} {node : GrpcNode} {pt : Point}
    (hpt : nodePoint nodecpu nodememory nodename count gpuuuid node = some pt)
    (printFloat : ℚ → String) (time : Cell) :
    NodeRowAgrees nodecpu nodememory node (selectStar printFloat time pt) ↔
      node.nodeNetworkRX = node.nodeNetworkTX := by
  have hsample := nodeSample_of_nodePoint hpt printFloat time
  constructor
  · intro h
    have hpasses := h.passes
    rw [hsample, Except.ok.injEq, NodeSample.mk.injEq] at hpasses
    exact hpasses.2.2.1
  · intro hequal
    refine ⟨⟨.number (formatInt node.totalPodnum), ?_, Cell.value_formatInt _⟩, ?_⟩
    · have hcolumn : pt.columns[7]? = some "totalpod" := by
        rw [columns_of_nodePoint hpt]
        rfl
      obtain rfl := eq_of_newPoint hpt
      exact selectStar_getElem? hcolumn rfl
    · rw [hsample, hequal]

/-- A node that received as much as it sent is read back as it was written. -/
theorem nodeRow_agrees_on_equal_counters :
    ∃ pt, nodePoint 7 8 "node" 0 [] { nodeNetworkRX := 5, nodeNetworkTX := 5 } = some pt ∧
      NodeRowAgrees 7 8 { nodeNetworkRX := 5, nodeNetworkTX := 5 }
        (selectStar (fun _ => "") .null pt) := by
  obtain ⟨pt, hpt⟩ : ∃ pt, nodePoint 7 8 "node" 0 []
      { nodeNetworkRX := 5, nodeNetworkTX := 5 } = some pt := ⟨_, rfl⟩
  exact ⟨pt, hpt, (nodeRow_agrees_iff hpt _ _).mpr rfl⟩

/-- A node that received five bytes and sent none is read back the other way. -/
theorem nodeRow_exchanges_counters :
    ∃ pt, nodePoint 7 8 "node" 0 [] { nodeNetworkRX := 5 } = some pt ∧
      ¬NodeRowAgrees 7 8 { nodeNetworkRX := 5 } (selectStar (fun _ => "") .null pt) := by
  obtain ⟨pt, hpt⟩ : ∃ pt, nodePoint 7 8 "node" 0 [] { nodeNetworkRX := 5 } = some pt := ⟨_, rfl⟩
  refine ⟨pt, hpt, ?_⟩
  intro h
  have hpasses := h.passes
  rw [nodeSample_of_nodePoint hpt, Except.ok.injEq, NodeSample.mk.injEq] at hpasses
  exact absurd hpasses.2.2.1 (by decide)

/-! ## The `gpumetric` row -/

/-- The keys of a GPU point, in the order of its row. -/
def gpuColumns : List String :=
  ["FanSpeed", "GPUName", "Index", "Podnum", "Power", "UUID", "memory(free)", "memory(total)",
    "memory(used)", "temperature", "utilization"]

theorem columns_of_gpuPoint {i : Int64} {gpu : GrpcGPU} {pt : Point}
    (hpt : gpuPoint i gpu = some pt) : pt.columns = gpuColumns := by
  rw [eq_of_newPoint hpt]
  show ["UUID", "Index", "GPUName", "memory(total)", "memory(free)", "memory(used)",
    "utilization", "Power", "temperature", "Podnum", "FanSpeed"].insertionSort (· ≤ ·) = _
  decide

/-- The row has twelve cells. -/
theorem length_of_gpuPoint {i : Int64} {gpu : GrpcGPU} {pt : Point}
    (hpt : gpuPoint i gpu = some pt) (printFloat : ℚ → String) (time : Cell) :
    (selectStar printFloat time pt).length = 12 := by
  rw [length_selectStar, eq_of_newPoint hpt]
  rfl

/-- `GetGPUMetrics` needs fourteen. -/
theorem length_of_gpuSample {row : List Cell} {s : GPUSample} (h : gpuSample row = .ok s) :
    14 ≤ row.length := by
  unfold gpuSample at h
  rcases bind_eq_ok.mp h with ⟨fan, -, h⟩
  rcases bind_eq_ok.mp h with ⟨rx, -, h⟩
  rcases bind_eq_ok.mp h with ⟨tx, -, h⟩
  rcases bind_eq_ok.mp h with ⟨power, -, h⟩
  rcases bind_eq_ok.mp h with ⟨memory, -, h⟩
  rcases bind_eq_ok.mp h with ⟨temp, -, h⟩
  rcases bind_eq_ok.mp h with ⟨util, hutil, -⟩
  have hlt : 13 < row.length := (List.getElem?_eq_some_iff.mp (index_eq_ok.mp hutil)).1
  omega

/-- The cell that the row check of `GetGPUMetrics` compares with the number of
pods is the UUID. -/
theorem checkedCell_of_gpuPoint {i : Int64} {gpu : GrpcGPU} {pt : Point}
    (hpt : gpuPoint i gpu = some pt) (printFloat : ℚ → String) (time : Cell) :
    (selectStar printFloat time pt)[6]? = some (.string gpu.grpcGPUUUID) := by
  have hcolumn : pt.columns[5]? = some "UUID" := by
    rw [columns_of_gpuPoint hpt]
    rfl
  obtain rfl := eq_of_newPoint hpt
  exact selectStar_getElem? hcolumn rfl

/-- What the row check and the passes of `GetGPUMetrics` take from a row is
what was collected. -/
structure GPURowAgrees (gpu : GrpcGPU) (row : List Cell) : Prop where
  check : ∃ cell, row[6]? = some cell ∧ cell.value = some (gpu.gpuPod.length : ℚ)
  passes : gpuSample row = .ok
    { fan := gpu.fanSpeed
      rx := gpu.gpuRX
      tx := gpu.gpuTX
      power := gpu.grpcGPUpower
      memory := gpu.grpcGPUused
      temp := gpu.grpcGPUtemp.current
      util := gpu.grpcGPUutil }

/-- The two sides of `gpumetric` agree on no reading: neither the row check nor
a pass finds what was written. -/
theorem gpuRow_disagrees {i : Int64} {gpu : GrpcGPU} {pt : Point}
    (hpt : gpuPoint i gpu = some pt) (printFloat : ℚ → String) (time : Cell) :
    ¬GPURowAgrees gpu (selectStar printFloat time pt) := by
  intro h
  have hwide := length_of_gpuSample h.passes
  rw [length_of_gpuPoint hpt] at hwide
  omega

/-- An idle GPU. -/
theorem gpuRow_disagrees_on_idle_gpu :
    ∃ pt, gpuPoint 0 { grpcGPUUUID := "GPU-0" } = some pt ∧
      ¬GPURowAgrees { grpcGPUUUID := "GPU-0" } (selectStar (fun _ => "") .null pt) := by
  obtain ⟨pt, hpt⟩ : ∃ pt, gpuPoint 0 { grpcGPUUUID := "GPU-0" } = some pt := ⟨_, rfl⟩
  exact ⟨pt, hpt, gpuRow_disagrees hpt _ _⟩

/-- A GPU at thirty degrees whose fan runs at one half. -/
theorem gpuRow_loses_reading :
    ∃ pt, gpuPoint 0
        { grpcGPUUUID := "GPU-0", fanSpeed := 50, grpcGPUtemp := { current := 30 } } = some pt ∧
      ¬GPURowAgrees { grpcGPUUUID := "GPU-0", fanSpeed := 50, grpcGPUtemp := { current := 30 } }
        (selectStar (fun _ => "") .null pt) := by
  obtain ⟨pt, hpt⟩ : ∃ pt, gpuPoint 0
      { grpcGPUUUID := "GPU-0", fanSpeed := 50, grpcGPUtemp := { current := 30 } } = some pt :=
    ⟨_, rfl⟩
  refine ⟨pt, hpt, ?_⟩
  intro h
  obtain ⟨cell, hcell, hvalue⟩ := h.check
  rw [checkedCell_of_gpuPoint hpt] at hcell
  cases hcell
  cases hvalue

end MetricCollector.Gpumetric
