import MetricCollector.Analyzer.Guards

/-!
# The degradation tree

`Analyzer` walks a node, its GPUs and their pods, and fills a `Degradation`
tree by index.  The spine of a GPU's pods is appended to as the pods are
visited; the spine of the node's GPUs is not.

* `nodeDegradation_spine`: the walk over the GPUs leaves their spine as long
  as it was, and needs it to be long enough.
* `analyzer_mirrors_iff`: so the tree mirrors the node when there is no GPU.
-/

namespace MetricCollector.Analyzer

open GoLib Grpcs Influx

/-- What outlives a call: the database client and the two counters. -/
structure Session where
  client : Client
  gpuDegradationCount : Int64 := 0
  nodeDegradationCount : Int64 := 0

/-- `PodDegradation`. -/
def podDegradation (config : Config) (s : Session) (pod : Grpcs.PodMetric) (uuid : String)
    (entry : Option DegradationPod) : Exec (Option DegradationPod × Session) := do
  let (ret, entry, c) ← getPodMetric config s.client pod uuid entry
  if ret = 0 then
    return (entry, { s with client := c, gpuDegradationCount := s.gpuDegradationCount + 1 })
  else return (entry, { s with client := c })

/-- One turn of the pod loop: append an entry, then fill the one at `i`. -/
def podTurn (config : Config) (gpu : GrpcGPU) (acc : Option DegradationGPU × Session) (i : Nat) :
    Exec (Option DegradationGPU × Session) := do
  let e ← deref .gpuDegradation acc.1
  let pods := e.pod ++ [some {}]
  let pod ← index .gpuDegradation gpu.gpuPod i
  let slot ← index .gpuDegradation pods i
  let (slot, s) ← podDegradation config acc.2 pod gpu.grpcGPUUUID slot
  return (some { e with pod := pods.set i slot }, s)

/-- `GPUDegradation`.  The temperature verdict is only printed. -/
def gpuDegradation (config : Config) (s : Session) (gpu : GrpcGPU)
    (entry : Option DegradationGPU) : Exec (Option DegradationGPU × Session) := do
  let (entry, s) ← (List.range gpu.gpuPod.length).foldlM (podTurn config gpu) (entry, s)
  let (ret, entry, c) ← getGPUMetrics config s.client gpu entry
  if ret = 0 then
    return (entry, { s with client := c, nodeDegradationCount := s.nodeDegradationCount + 1 })
  else return (entry, { s with client := c })

/-- One turn of the GPU loop: fill the entry at `i`.  The line that appends one
is commented out in the source. -/
def gpuTurn (config : Config) (node : GrpcNode) (acc : Degradation × Session) (i : Nat) :
    Exec (Degradation × Session) := do
  let gpu ← index .nodeDegradation node.nodeGPU i
  let entry ← index .nodeDegradation acc.1.gpu i
  let (entry, s) ← gpuDegradation config acc.2 gpu entry
  return ({ acc.1 with gpu := acc.1.gpu.set i entry }, s)

/-- `NodeDegradation`. -/
def nodeDegradation (config : Config) (s : Session) (node : GrpcNode) (d : Degradation) :
    Exec (Degradation × Session) := do
  let (d, s) ← (List.range node.nodeGPU.length).foldlM (gpuTurn config node) (d, s)
  let (_, c) ← getNodeMetric config s.client node
  return (d, { s with client := c })

/-- `Analyzer`, with the tree it drops. -/
def analyzer (config : Config) (s : Session) (node : GrpcNode) : Exec (Degradation × Session) :=
  nodeDegradation config s node { nodeName := node.grpcNodeName }

/-! ## What one turn does -/

/-- A turn of the GPU loop needs an entry at its index and adds none. -/
theorem gpuTurn_length {config : Config} {node : GrpcNode} {d d' : Degradation} {s s' : Session}
    {i : Nat} (h : gpuTurn config node (d, s) i = .ok (d', s')) :
    d'.gpu.length = d.gpu.length ∧ i < d.gpu.length := by
  unfold gpuTurn at h
  rcases bind_eq_ok.mp h with ⟨gpu, -, h⟩
  rcases bind_eq_ok.mp h with ⟨entry, hentry, h⟩
  rcases bind_eq_ok.mp h with ⟨⟨entry', s''⟩, -, h⟩
  cases h
  have hlt : i < d.gpu.length := (List.getElem?_eq_some_iff.mp (index_eq_ok.mp hentry)).1
  exact ⟨List.length_set, hlt⟩

/-! ## What a walk does -/

/-- The walk over the GPUs never grows their spine, so it needs one entry for
each GPU before it starts. -/
theorem nodeDegradation_spine {config : Config} {node : GrpcNode} {d d' : Degradation}
    {s s' : Session} (h : nodeDegradation config s node d = .ok (d', s')) :
    d'.gpu.length = d.gpu.length ∧ node.nodeGPU.length ≤ d.gpu.length := by
  unfold nodeDegradation at h
  rcases bind_eq_ok.mp h with ⟨⟨d₁, s₁⟩, hloop, h⟩
  rcases bind_eq_ok.mp h with ⟨⟨ret, c⟩, -, h⟩
  cases h
  obtain ⟨hlength, hturns⟩ := foldlM_inv (fun acc => acc.1.gpu.length = d.gpu.length)
    (fun i => i < d.gpu.length)
    (fun acc acc' i _ hacc hturn => by
      obtain ⟨hkeep, hlt⟩ := gpuTurn_length hturn
      exact ⟨hkeep.trans hacc, hacc ▸ hlt⟩) rfl hloop
  refine ⟨hlength, ?_⟩
  by_contra hshort
  have := hturns d.gpu.length (List.mem_range.mpr (by omega))
  omega

/-- The tree has one entry for each GPU, in order, and the entry has one for
each pod of that GPU. -/
def Mirrors (node : GrpcNode) (d : Degradation) : Prop :=
  List.Forall₂ (fun gpu entry => ∃ e : DegradationGPU, entry = some e ∧
    e.pod.length = gpu.gpuPod.length) node.nodeGPU d.gpu

/-- No query of the run faulted. -/
def QueriesReturn {α : Type} (run : Exec α) : Prop :=
  FaultsIn (fun frame => ¬frame.isQuery) run

/-- A run whose queries return builds a tree that mirrors the node if and only
if the node has no GPU. -/
theorem analyzer_mirrors_iff (config : Config) (s : Session) (node : GrpcNode)
    (hqueries : QueriesReturn (analyzer config s node)) :
    (∃ d s', analyzer config s node = .ok (d, s') ∧ Mirrors node d) ↔ node.nodeGPU = [] := by
  constructor
  · intro h
    rcases h with ⟨d, s', hrun, -⟩
    have hspine := (nodeDegradation_spine hrun).2
    exact List.length_eq_zero_iff.mp (Nat.le_zero.mp hspine)
  · intro hnone
    have hrun : analyzer config s node = (getNodeMetric config s.client node >>= fun ret =>
        .ok ({ nodeName := node.grpcNodeName }, { s with client := ret.2 })) := by
      unfold analyzer nodeDegradation
      rw [hnone]
      rfl
    cases hquery : getNodeMetric config s.client node with
    | ok ret =>
        rw [hrun, hquery, ok_bind]
        refine ⟨_, _, rfl, ?_⟩
        unfold Mirrors
        rw [hnone]
        exact List.Forall₂.nil
    | error fault =>
        have hframe : fault.frame.isQuery :=
          getNodeMetric_faultsIn (by simp [Frame.isQuery]) (by simp [Frame.isQuery]) config
            s.client node fault hquery
        rw [hrun, hquery, error_bind] at hqueries
        exact absurd hframe (hqueries fault rfl)

/-- A node without a GPU is mirrored. -/
theorem analyzer_mirrors_cpu_node :
    ∃ d s', analyzer oneRow { client := clientOf [] } { grpcNodeName := "node" } = .ok (d, s') ∧
      Mirrors { grpcNodeName := "node" } d := by
  have hrun : QueriesReturn
      (analyzer oneRow { client := clientOf [] } { grpcNodeName := "node" }) := by
    exact faultsIn_ok _
  exact (analyzer_mirrors_iff oneRow _ _ hrun).mpr rfl

/-- A node with one GPU stops the run, although no query faults. -/
theorem analyzer_faults_gpu_node :
    QueriesReturn (analyzer oneRow { client := clientOf [List.replicate 14 .null] }
        { nodeGPU := [{ gpuPod := [{}] }] }) ∧
      ¬∃ d s', analyzer oneRow { client := clientOf [List.replicate 14 .null] }
          { nodeGPU := [{ gpuPod := [{}] }] } = .ok (d, s') ∧
        Mirrors { nodeGPU := [{ gpuPod := [{}] }] } d := by
  have hrun : analyzer oneRow { client := clientOf [List.replicate 14 .null] }
      { nodeGPU := [{ gpuPod := [{}] }] } = .error ⟨.indexOutOfRange, .nodeDegradation⟩ := rfl
  rw [hrun]
  constructor
  · exact faultsIn_error (by simp [Frame.isQuery])
  · intro h
    rcases h with ⟨d, s', h, -⟩
    cases h

end MetricCollector.Analyzer
