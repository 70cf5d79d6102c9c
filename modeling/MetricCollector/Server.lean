import MetricCollector.GoLib.Schedule
import MetricCollector.Grpcs
import Mathlib.Logic.Function.Basic

/-!
# The scheduler's calls

Schedulers ask the collector for its node.  `GetInitData` answers with
everything; `GetNode` answers with what changes, and leaves the total storage
out when it is the value that was sent last.  That last value is one variable
for the whole process, whoever was sent it.

The system is the collector, its main loop and any number of clients.  Beside
the collector's own state it records for each client what the client knows.

* `serve_received` is what a client knows after a call.
* `lossless_iff_fresh` says in which schedules each client always knows the
  current total.
* `fresh_of_one_client`: a single client always does.
-/

namespace MetricCollector.Server

open GoLib Schedule Grpcs

/-! ## The messages -/

/-- `userpb.NodeMessage`. -/
structure NodeMessage where
  nodeName : String := ""
  nodeTotalcpu : Int64 := 0
  nodeCpu : Int64 := 0
  gpuCount : Int64 := 0
  nodeTotalmemory : Int64 := 0
  nodeMemory : Int64 := 0
  nodeTotalstorage : Int64 := 0
  nodeStorage : Int64 := 0
  gpuUuid : String := ""
  maxGpuMemory : Int64 := 0
  gpu1Index : List String := []
  gpu2Index : List String := []
  lanecount : List Int32 := []
deriving DecidableEq, Repr

/-- `userpb.GPUMessage`. -/
structure GPUMessage where
  gpuUuid : String := ""
  gpuTotal : UInt64 := 0
  gpuUsed : UInt64 := 0
  gpuFree : UInt64 := 0
  gpuName : String := ""
  gpuIndex : Int64 := 0
  gpuTemp : Int64 := 0
  gpuPower : Int64 := 0
  mpsCount : Int64 := 0
  gpuFlops : Int64 := 0
  gpuArch : Int64 := 0
  gpuTpower : Int64 := 0
  gpuUtil : Int64 := 0
deriving DecidableEq, Repr

/-- `userpb.InitMessage`. -/
structure InitMessage where
  initNode : NodeMessage := {}
  initGPU : List GPUMessage := []
deriving DecidableEq, Repr

/-! ## The collector -/

/-- The variables of `main`.  `node` is `Node[0]`; its GPUs are also `GPU`. -/
structure Collector where
  node : GrpcNode := {}
  gpuuuid : List String := []
  prevNodeStorage : Int64 := 0
deriving DecidableEq, Repr

/-- What `MemberMetricCollector` and the collected batch tell the main loop. -/
structure Readings where
  nanocpu : Int64 := 0
  nodememory : Int64 := 0
  totalcpu : Int64 := 0
  totalmemory : Int64 := 0
  nodetotalstorage : Int64 := 0
  nodestorage : Int64 := 0
  networkRx : Int64 := 0
  networkTx : Int64 := 0

/-- The assignments of one turn of the main loop. -/
def Collector.update (s : Collector) (r : Readings) : Collector :=
  { s with node := { s.node with
    grpcNodeCPU := r.nanocpu
    grpcNodeMemory := r.nodememory
    grpcNodetotalCPU := r.totalcpu
    grpcNodeTotalMemory := r.totalmemory
    grpcNodeTotalStorage := r.nodetotalstorage
    grpcNodeStorage := r.nodestorage
    nodeNetworkRX := r.networkRx
    nodeNetworkTX := r.networkTx } }

/-- `GetNode`. -/
def getNode (s : Collector) : NodeMessage × Collector :=
  let nodedata : NodeMessage := {
    nodeName := s.node.grpcNodeName
    nodeCpu := s.node.grpcNodeCPU
    nodeMemory := s.node.grpcNodeMemory
    nodeStorage := s.node.grpcNodeStorage }
  (if s.prevNodeStorage ≠ s.node.grpcNodeTotalStorage then
      { nodedata with nodeTotalstorage := s.node.grpcNodeTotalStorage }
    else nodedata,
    { s with prevNodeStorage := s.node.grpcNodeTotalStorage })

/-- One turn of the loop for `maxgpumemory`. -/
def maxTurn (gpus : List GrpcGPU) (maxgpumemory : Int64) (i : Nat) : Exec Int64 := do
  let gpu ← index .getInitData gpus i
  return if maxgpumemory < gpu.grpcGPUtotal then gpu.grpcGPUtotal else maxgpumemory

/-- The message about a GPU. -/
def gpuMessage (gpu : GrpcGPU) : GPUMessage where
  gpuUuid := gpu.grpcGPUUUID
  gpuUsed := gpu.grpcGPUused.toUInt64
  gpuName := gpu.grpcGPUName
  gpuIndex := gpu.grpcGPUIndex
  gpuTotal := gpu.grpcGPUtotal.toUInt64
  gpuFree := gpu.grpcGPUfree.toUInt64
  gpuTemp := gpu.grpcGPUtemp.current
  gpuPower := gpu.grpcGPUpower
  mpsCount := gpu.grpcGPUmpscount
  gpuUtil := gpu.grpcGPUutil
  gpuFlops := gpu.grpcGPUflops
  gpuArch := gpu.grpcGPUarch
  gpuTpower := gpu.grpcGPUtotalpower

/-- One turn of the loop over the GPUs: a negative count is set to zero. -/
def gpuTurn (acc : List GrpcGPU × List GPUMessage) (i : Nat) :
    Exec (List GrpcGPU × List GPUMessage) := do
  let gpu ← index .getInitData acc.1 i
  let gpu := if gpu.grpcGPUmpscount < 0 then { gpu with grpcGPUmpscount := 0 } else gpu
  return (acc.1.set i gpu, acc.2 ++ [gpuMessage gpu])

/-- `GetInitData`, after its sleep. -/
def getInitData (s : Collector) : Exec (InitMessage × Collector) := do
  let maxgpumemory ← (List.range s.gpuuuid.length).foldlM (maxTurn s.node.nodeGPU) 0
  let nodedata : NodeMessage := {
    nodeName := s.node.grpcNodeName
    nodeTotalcpu := s.node.grpcNodetotalCPU
    nodeCpu := s.node.grpcNodeCPU
    gpuCount := s.node.grpcNodeCount
    nodeTotalmemory := s.node.grpcNodeTotalMemory
    nodeMemory := s.node.grpcNodeMemory
    nodeTotalstorage := s.node.grpcNodeTotalStorage
    nodeStorage := s.node.grpcNodeStorage
    gpuUuid := " ".intercalate s.node.grpcNodeUUID
    maxGpuMemory := maxgpumemory
    gpu1Index := s.node.nvLinkInfo.map NvLink.gpu1UUID
    gpu2Index := s.node.nvLinkInfo.map NvLink.gpu2UUID
    lanecount := s.node.nvLinkInfo.map fun link => link.countLink.toInt32 }
  let (gpus, grpcgpudata) ← (List.range s.gpuuuid.length).foldlM gpuTurn (s.node.nodeGPU, [])
  return ({ initNode := nodedata, initGPU := grpcgpudata },
    { s with
      prevNodeStorage := s.node.grpcNodeTotalStorage
      node := { s.node with nodeGPU := gpus } })

/-- `GetGPU`: the message about the first GPU with the UUID, without the fields
that never change. -/
def getGPU (s : Collector) (uuid : String) : Exec (Option GPUMessage × Collector) :=
  match s.gpuuuid.findIdx? (· = uuid) with
  | none => return (none, s)
  | some i => do
      let gpu ← index .getGPU s.node.nodeGPU i
      let gpu := if gpu.grpcGPUmpscount < 0 then { gpu with grpcGPUmpscount := 0 } else gpu
      let gpudata : GPUMessage := {
        gpuUsed := gpu.grpcGPUused.toUInt64
        gpuFree := gpu.grpcGPUfree.toUInt64
        gpuTemp := gpu.grpcGPUtemp.current
        gpuPower := gpu.grpcGPUpower
        mpsCount := gpu.grpcGPUmpscount
        gpuUtil := gpu.grpcGPUutil }
      return (some gpudata, { s with node := { s.node with nodeGPU := s.node.nodeGPU.set i gpu } })

/-- `GetInitData` sends the total storage, and remembers that it did. -/
theorem getInitData_storage {s s' : Collector} {message : InitMessage}
    (h : getInitData s = .ok (message, s')) :
    message.initNode.nodeTotalstorage = s.node.grpcNodeTotalStorage ∧
      s'.node.grpcNodeTotalStorage = s.node.grpcNodeTotalStorage ∧
      s'.prevNodeStorage = s.node.grpcNodeTotalStorage := by
  unfold getInitData at h
  rcases bind_eq_ok.mp h with ⟨maxgpumemory, -, h⟩
  rcases bind_eq_ok.mp h with ⟨⟨gpus, grpcgpudata⟩, -, h⟩
  cases h
  exact ⟨rfl, rfl, rfl⟩

/-! ## The system -/

/-- The collector and what its clients know. -/
structure System (Client : Type) where
  collector : Collector
  /-- The last total storage other than zero that a client was sent. -/
  received : Client → Int64
  /-- The total storage at a client's last call, if it has made one. -/
  servedAt : Client → Option Int64

variable {Client : Type}

/-- `Node[0].GrpcNodeTotalStorage`. -/
def System.total (s : System Client) : Int64 := s.collector.node.grpcNodeTotalStorage

/-- A turn of the main loop, or a call of a client. -/
inductive Event (Client : Type) where
  | update (readings : Readings)
  | getInitData (client : Client)
  | getNode (client : Client)

/-- The process starts: nothing was sent to anyone. -/
def start (node : GrpcNode) (gpuuuid : List String) : System Client where
  collector := { node := node, gpuuuid := gpuuuid }
  received _ := 0
  servedAt _ := none

/-- A client knows the current total after its call. -/
def Lossless (_ : System Client) (event : Event Client) (t : System Client) : Prop :=
  match event with
  | .update _ => True
  | .getInitData client => t.received client = t.total
  | .getNode client => t.received client = t.total

/-- When a client asks with `GetNode`, either the total has changed since the
last call of any client, or it is what it was at this client's own last call. -/
def Fresh (s : System Client) (event : Event Client) (_ : System Client) : Prop :=
  match event with
  | .update _ => True
  | .getInitData _ => True
  | .getNode client => s.collector.prevNodeStorage ≠ s.total ∨ s.servedAt client = some s.total

/-- What is true as long as every call has told its client the current total. -/
structure Informed (s : System Client) : Prop where
  known : ∀ client total, s.servedAt client = some total → s.received client = total
  unserved : ∀ client, s.servedAt client = none → s.received client = 0
  blank : s.total = 0 → s.collector.prevNodeStorage = 0

theorem informed_start (node : GrpcNode) (gpuuuid : List String) :
    Informed (start node gpuuuid : System Client) where
  known _ _ h := by cases h
  unserved _ _ := rfl
  blank _ := rfl

theorem informed_update {s : System Client} (hs : Informed s) {readings : Readings}
    (hpositive : 0 < readings.nodetotalstorage) :
    Informed { s with collector := s.collector.update readings } where
  known := hs.known
  unserved := hs.unserved
  blank h := by
    have hzero : readings.nodetotalstorage = 0 := h
    rw [hzero] at hpositive
    exact absurd hpositive (by decide)

section Steps

variable [DecidableEq Client]

/-- The client gets its answer. -/
def System.serve (s : System Client) (client : Client) (message : NodeMessage)
    (collector : Collector) : System Client where
  collector := collector
  received := Function.update s.received client
    (if message.nodeTotalstorage = 0 then s.received client else message.nodeTotalstorage)
  servedAt := Function.update s.servedAt client (some collector.node.grpcNodeTotalStorage)

/-- The steps of the system.  A client's first call is `GetInitData`, and every
later one is `GetNode`; the main loop reads a positive total. -/
def step (s : System Client) : Event Client → Option (System Client)
  | .update readings =>
      if 0 < readings.nodetotalstorage then
        some { s with collector := s.collector.update readings }
      else none
  | .getInitData client =>
      if s.servedAt client = none then
        match getInitData s.collector with
        | .ok (message, collector) => some (s.serve client message.initNode collector)
        | .error _ => none
      else none
  | .getNode client =>
      if s.servedAt client = none then none
      else some (s.serve client (getNode s.collector).1 (getNode s.collector).2)

/-! ## What one step does -/

theorem step_cases {s t : System Client} {event : Event Client} (h : step s event = some t) :
    (∃ readings, event = .update readings ∧ 0 < readings.nodetotalstorage ∧
      t = { s with collector := s.collector.update readings }) ∨
    (∃ client message collector, event = .getInitData client ∧ s.servedAt client = none ∧
      getInitData s.collector = .ok (message, collector) ∧
      t = s.serve client message.initNode collector) ∨
    (∃ client, event = .getNode client ∧ s.servedAt client ≠ none ∧
      t = s.serve client (getNode s.collector).1 (getNode s.collector).2) := by
  cases event with
  | update readings =>
      simp only [step] at h
      by_cases hpositive : 0 < readings.nodetotalstorage
      · rw [if_pos hpositive] at h
        exact Or.inl ⟨readings, rfl, hpositive, (Option.some.inj h).symm⟩
      · rw [if_neg hpositive] at h
        cases h
  | getInitData client =>
      simp only [step] at h
      by_cases hfirst : s.servedAt client = none
      · rw [if_pos hfirst] at h
        cases hinit : getInitData s.collector with
        | error fault =>
            rw [hinit] at h
            cases h
        | ok answer =>
            rw [hinit] at h
            exact Or.inr (Or.inl ⟨client, answer.1, answer.2, rfl, hfirst, rfl,
              (Option.some.inj h).symm⟩)
      · rw [if_neg hfirst] at h
        cases h
  | getNode client =>
      simp only [step] at h
      by_cases hfirst : s.servedAt client = none
      · rw [if_pos hfirst] at h
        cases h
      · rw [if_neg hfirst] at h
        exact Or.inr (Or.inr ⟨client, rfl, hfirst, (Option.some.inj h).symm⟩)

/-- The total goes into the answer when it is not the last one sent. -/
theorem getNode_storage (s : Collector) :
    (getNode s).1.nodeTotalstorage =
      if s.prevNodeStorage ≠ s.node.grpcNodeTotalStorage then s.node.grpcNodeTotalStorage
      else 0 := by
  unfold getNode
  by_cases hchanged : s.prevNodeStorage ≠ s.node.grpcNodeTotalStorage
  · simp only [if_pos hchanged]
  · simp only [if_neg hchanged]

/-- What a client knows after a call. -/
theorem serve_received (s : System Client) (client : Client) (message : NodeMessage)
    (collector : Collector) :
    (s.serve client message collector).received client =
      if message.nodeTotalstorage = 0 then s.received client else message.nodeTotalstorage :=
  Function.update_self _ _ _

@[simp] theorem serve_servedAt_self (s : System Client) (client : Client) (message : NodeMessage)
    (collector : Collector) :
    (s.serve client message collector).servedAt client =
      some collector.node.grpcNodeTotalStorage :=
  Function.update_self _ _ _

/-- A call is nothing to the other clients. -/
theorem serve_of_ne (s : System Client) {client other : Client} (hother : other ≠ client)
    (message : NodeMessage) (collector : Collector) :
    (s.serve client message collector).received other = s.received other ∧
      (s.serve client message collector).servedAt other = s.servedAt other :=
  ⟨Function.update_of_ne hother _ _, Function.update_of_ne hother _ _⟩

/-- A call that tells its client the total keeps the others informed. -/
theorem informed_serve {s : System Client} (hs : Informed s) {client : Client}
    {message : NodeMessage} {collector : Collector}
    (hprev : collector.prevNodeStorage = collector.node.grpcNodeTotalStorage)
    (htold : (s.serve client message collector).received client =
      (s.serve client message collector).total) :
    Informed (s.serve client message collector) where
  known other total h := by
    by_cases hother : other = client
    · subst hother
      rw [serve_servedAt_self] at h
      exact htold.trans (Option.some.inj h)
    · rcases serve_of_ne s hother message collector with ⟨hreceived, hserved⟩
      rw [hserved] at h
      rw [hreceived]
      exact hs.known other total h
  unserved other h := by
    by_cases hother : other = client
    · subst hother
      rw [serve_servedAt_self] at h
      cases h
    · rcases serve_of_ne s hother message collector with ⟨hreceived, hserved⟩
      rw [hserved] at h
      rw [hreceived]
      exact hs.unserved other h
  blank h := hprev.trans h

/-- A first call tells its client the total. -/
theorem told_of_getInitData {s : System Client} (hs : Informed s) {client : Client}
    (hfirst : s.servedAt client = none) {message : InitMessage} {collector : Collector}
    (hinit : getInitData s.collector = .ok (message, collector)) :
    (s.serve client message.initNode collector).received client =
      (s.serve client message.initNode collector).total := by
  rcases getInitData_storage hinit with ⟨hsent, hkept, -⟩
  rw [serve_received, hsent]
  show _ = collector.node.grpcNodeTotalStorage
  rw [hkept]
  by_cases hzero : s.collector.node.grpcNodeTotalStorage = 0
  · rw [if_pos hzero, hs.unserved client hfirst, hzero]
  · rw [if_neg hzero]

/-- A later call does exactly when it is fresh. -/
theorem told_of_getNode_iff {s : System Client} (hs : Informed s) {client : Client}
    (hserved : s.servedAt client ≠ none) :
    (s.serve client (getNode s.collector).1 (getNode s.collector).2).received client =
        (s.serve client (getNode s.collector).1 (getNode s.collector).2).total ↔
      s.collector.prevNodeStorage ≠ s.total ∨ s.servedAt client = some s.total := by
  obtain ⟨total, htotal⟩ := Option.ne_none_iff_exists'.mp hserved
  rw [serve_received, htotal, hs.known client total htotal, Option.some.injEq]
  show _ = s.total ↔ _
  have hstorage : (getNode s.collector).1.nodeTotalstorage =
      if s.collector.prevNodeStorage ≠ s.total then s.total else 0 := getNode_storage s.collector
  by_cases hchanged : s.collector.prevNodeStorage ≠ s.total
  · rw [if_pos hchanged] at hstorage
    have hpositive : s.total ≠ 0 := fun hzero => hchanged ((hs.blank hzero).trans hzero.symm)
    rw [hstorage, if_neg hpositive]
    exact ⟨fun _ => Or.inl hchanged, fun _ => rfl⟩
  · rw [if_neg hchanged] at hstorage
    rw [hstorage, if_pos rfl]
    exact ⟨Or.inr, fun h => h.resolve_left hchanged⟩

/-! ## What a schedule does -/

/-- Every client knows the current total after each of its calls in exactly the
schedules in which every `GetNode` is fresh. -/
theorem lossless_iff_fresh (node : GrpcNode) (gpuuuid : List String)
    (events : List (Event Client)) :
    Along step Lossless (start node gpuuuid) events ↔
      Along step Fresh (start node gpuuuid) events := by
  apply along_iff Informed _ (informed_start node gpuuuid)
  intro s event t hs hstep
  rcases step_cases hstep with ⟨readings, rfl, hpositive, rfl⟩ |
    ⟨client, message, collector, rfl, hfirst, hinit, rfl⟩ | ⟨client, rfl, hserved, rfl⟩
  · exact ⟨Iff.rfl, fun _ => informed_update hs hpositive⟩
  · rcases getInitData_storage hinit with ⟨-, hkept, hprev⟩
    have htold := told_of_getInitData hs hfirst hinit
    exact ⟨iff_of_true htold trivial, informed_serve hs (hprev.trans hkept.symm)⟩
  · exact ⟨told_of_getNode_iff hs hserved, informed_serve hs rfl⟩

/-- Two clients, of which the second asks first after a change: the first is
not told. -/
theorem lossless_fails_for_two_clients :
    ¬Along step Lossless (start {} [] : System Bool)
      [.update { nodetotalstorage := 5 }, .getInitData false, .getInitData true,
        .update { nodetotalstorage := 7 }, .getNode true, .getNode false] := by
  intro h
  have h₁ := (h _ rfl).2
  have h₂ := (h₁ _ rfl).2
  have h₃ := (h₂ _ rfl).2
  have h₄ := (h₃ _ rfl).2
  have h₅ := (h₄ _ rfl).2
  have hlast : (5 : Int64) = 7 := (h₅ _ rfl).1
  exact absurd hlast (by decide)

/-- With one client, the last call of any client is its own. -/
theorem fresh_of_one_client [Subsingleton Client] (node : GrpcNode) (gpuuuid : List String)
    (events : List (Event Client)) : Along step Fresh (start node gpuuuid) events := by
  apply along_of_inv (fun s => ∀ client total, s.servedAt client = some total →
    s.collector.prevNodeStorage = total) _ (fun client total h => by cases h)
  intro s event t hs hstep
  rcases step_cases hstep with ⟨readings, rfl, hpositive, rfl⟩ |
    ⟨client, message, collector, rfl, hfirst, hinit, rfl⟩ | ⟨client, rfl, hserved, rfl⟩
  · exact ⟨trivial, hs⟩
  · rcases getInitData_storage hinit with ⟨-, hkept, hprev⟩
    refine ⟨trivial, ?_⟩
    intro other total h
    obtain rfl := Subsingleton.elim client other
    rw [serve_servedAt_self] at h
    exact (hprev.trans hkept.symm).trans (Option.some.inj h)
  · constructor
    · obtain ⟨total, htotal⟩ := Option.ne_none_iff_exists'.mp hserved
      by_cases hchanged : s.collector.prevNodeStorage = s.total
      · right
        rw [htotal, ← hs client total htotal, hchanged]
      · exact Or.inl hchanged
    · intro other total h
      obtain rfl := Subsingleton.elim client other
      rw [serve_servedAt_self] at h
      exact Option.some.inj h

end Steps

end MetricCollector.Server
