import MetricCollector.GoLib.Compact
import MetricCollector.Grpcs
import MetricCollector.Stats

/-!
# Decoding a summary

`DecodeBatch` turns the kubelet's summary into a batch of metric points.  The
functions it calls write into a target that the caller passes; here each takes
the target and returns it as it leaves it, beside its error.

* `decodePodStats_overwrites`: what a pod decodes to does not depend on its
  target, unless the decoding fails.
* `decodeBatch_exact`: so the batch has the complete pods and nothing else,
  each as it decodes by itself.
-/

namespace MetricCollector.Decode

open GoLib Compact Resource Storage Stats

/-- `uint64Quantity`. -/
def uint64Quantity (val : UInt64) (scale : Int) : Quantity :=
  if val.toNat ≤ 2 ^ 63 - 1 then newScaledQuantity val.toInt64 scale
  else newScaledQuantity (val / 10).toInt64 (1 + scale)

/-- A byte counter, whose format is set to `resource.BinarySI`. -/
def bytesQuantity (val : UInt64) : Quantity :=
  { uint64Quantity val 0 with format := .binarySI }

/-- A counter that fits an `int64` is kept as it is. -/
theorem uint64Quantity_of_lt {val : UInt64} (h : val.toNat < 2 ^ 63) (scale : Int) :
    uint64Quantity val scale = newScaledQuantity val.toInt64 scale :=
  if_pos (Nat.le_pred_of_lt h)

theorem toInt_toInt64 {val : UInt64} (h : val.toNat < 2 ^ 63) : val.toInt64.toInt = val.toNat := by
  have hbmod : val.toInt64.toInt = (val.toNat : Int).bmod (2 ^ 64) := BitVec.toInt_eq_toNat_bmod _
  rw [hbmod, Int.bmod_eq_of_le (by omega) (by omega)]

/-! ## One section -/

/-- `decodeCPU`. -/
def decodeCPU (target : MetricsPoint) (cpuStats : Option CPUStats) : MetricsPoint × Option String :=
  match cpuStats.bind CPUStats.usageNanoCores with
  | none => (target, some "missing cpu usage metric")
  | some usage => ({ target with cpuUsageNanoCores := uint64Quantity usage (-9) }, none)

/-- `decodeMemory`. -/
def decodeMemory (target : MetricsPoint) (memStats : Option MemoryStats) :
    Exec (MetricsPoint × Option String) :=
  match memStats with
  | none => return (target, some "missing memory usage metric")
  | some memory =>
      match memory.workingSetBytes with
      | none => return (target, some "missing memory usage metric")
      | some workingSet => do
          let target := match memory.availableBytes with
            | some available => { target with memoryAvailableBytes := bytesQuantity available }
            | none => target
          let usage ← deref .decodeMemory memory.usageBytes
          return ({ target with
            memoryUsageBytes := bytesQuantity usage
            memoryWorkingSetBytes := bytesQuantity workingSet }, none)

/-- `decodeNetwork`.  The calls of it are commented out in the source. -/
def decodeNetwork (target : MetricsPoint) (netStats : Option NetworkStats) :
    Exec (MetricsPoint × Option String) :=
  match netStats with
  | none => return (target, some "missing network RX usage metric")
  | some network =>
      if network.interfaces.head?.any fun first => first.rxBytes.isNone then
        return (target, some "missing network RX usage metric")
      else do
        let (rxUsage, txUsage) ← network.interfaces.foldlM (fun usage interface => do
          let rx ← deref .decodeNetwork interface.rxBytes
          let tx ← deref .decodeNetwork interface.txBytes
          return (usage.1 + rx, usage.2 + tx)) ((0 : UInt64), (0 : UInt64))
        return ({ target with
          networkRxBytes := bytesQuantity rxUsage
          networkTxBytes := bytesQuantity txUsage }, none)

/-- `decodeFs`. -/
def decodeFs (target : MetricsPoint) (fsStats : Option FsStats) :
    Exec (MetricsPoint × Option String) :=
  match fsStats with
  | none => return (target, some "missing FS usage metric")
  | some fs => do
      let available ← deref .decodeFs fs.availableBytes
      let capacity ← deref .decodeFs fs.capacityBytes
      return ({ target with
        fsAvailableBytes := bytesQuantity available
        fsCapacityBytes := bytesQuantity capacity
        fsUsedBytes := bytesQuantity (fs.usedBytes.getD 0) }, none)

/-! ## The scrape time -/

/-- One turn of the search for the earliest time: a section that is present,
has a time, and is before the earliest so far. -/
def earlier (earliest : Option Time) (time : Option Time) : Option Time :=
  match time with
  | none => earliest
  | some t =>
      match earliest with
      | none => if t ≠ 0 then some t else none
      | some e => if t ≠ 0 ∧ t < e then some t else some e

/-- The answer once all sections were looked at. -/
def scrapeTime (earliest : Option Time) : Except String Time :=
  match earliest with
  | none => .error "no non-zero timestamp on either CPU or memory"
  | some t => .ok t

/-- `getScrapeTimePod`. -/
def getScrapeTimePod (cpu : Option CPUStats) (memory : Option MemoryStats) : Except String Time :=
  scrapeTime (earlier (earlier none (cpu.map CPUStats.time)) (memory.map MemoryStats.time))

/-- `getScrapeTimeNode`. -/
def getScrapeTimeNode (cpu : Option CPUStats) (memory : Option MemoryStats)
    (network : Option NetworkStats) (fs : Option FsStats) : Except String Time :=
  scrapeTime (earlier (earlier (earlier (earlier none (cpu.map CPUStats.time))
    (memory.map MemoryStats.time)) (network.map NetworkStats.time)) (fs.map FsStats.time))

/-! ## Nodes and pods -/

/-- The arguments of a `fmt.Errorf`: its format, the name it quotes and the
error it ends with. -/
structure DecodeError where
  format : String
  name : String
  err : String
deriving DecidableEq, Repr

/-- `if err != nil` around an `append` to the errors. -/
def wrap (format name : String) (err : Option String) : List DecodeError :=
  err.toList.map fun e => ⟨format, name, e⟩

/-- `decodeNodeStats`. -/
def decodeNodeStats (nodeStats : NodeStats) (target : NodeMetricsPoint) :
    Exec (NodeMetricsPoint × List DecodeError) :=
  match getScrapeTimeNode nodeStats.cpu nodeStats.memory nodeStats.network nodeStats.fs with
  | .error err =>
      return (target,
        [⟨"unable to get valid timestamp for metric point for node %q, discarding data: %v",
          nodeStats.nodeName, err⟩])
  | .ok timestamp => do
      let (point, cpuErr) := decodeCPU { timestamp := timestamp } nodeStats.cpu
      let (point, memErr) ← decodeMemory point nodeStats.memory
      let (point, fsErr) ← decodeFs point nodeStats.fs
      return ({ name := nodeStats.nodeName, metricsPoint := point },
        wrap "unable to get CPU for node %q, discarding data: %v" nodeStats.nodeName cpuErr ++
        wrap "unable to get memory for node %q, discarding data: %v" nodeStats.nodeName memErr ++
        wrap "unable to get FS for node %q, discarding data: %v" nodeStats.nodeName fsErr)

/-- `decodePodStats`. -/
def decodePodStats (podStats : PodStats) (target : PodMetricsPoint) :
    Exec (PodMetricsPoint × List DecodeError) :=
  match getScrapeTimePod podStats.cpu podStats.memory with
  | .error err =>
      return (target,
        [⟨"unable to get valid timestamp for metric point for pod %q, discarding data: %v",
          podStats.podRef.name, err⟩])
  | .ok timestamp => do
      let (point, cpuErr) := decodeCPU { timestamp := timestamp } podStats.cpu
      let (point, memErr) ← decodeMemory point podStats.memory
      let (point, fsErr) ← decodeFs point podStats.ephemeralStorage
      return ({ name := podStats.podRef.name, podNamespace := podStats.podRef.podNamespace,
                metricsPoint := point },
        wrap "unable to get CPU for pod %q, discarding data: %v" podStats.podRef.name cpuErr ++
        wrap "unable to get memory for pod %q, discarding data: %v" podStats.podRef.name memErr ++
        wrap "unable to get Fs for pod %q, discarding data: %v" podStats.podRef.name fsErr)

/-! ## The batch -/

/-- `utilerrors.NewAggregate` on errors of which none is `nil`. -/
def newAggregate (errs : List DecodeError) : Option (List DecodeError) :=
  if errs = [] then none else some errs

/-- One turn of the loop over the pods, on the slots, `num` and the errors. -/
def podTurn (acc : List PodMetricsPoint × Nat × List DecodeError) (pod : PodStats) :
    Exec (List PodMetricsPoint × Nat × List DecodeError) := do
  let (slots, num, errs) := acc
  let target ← index .decodeBatch slots num
  let (target, podErrs) ← decodePodStats pod target
  let slots := slots.set num target
  let errs := errs ++ podErrs
  if podErrs.length ≠ 0 then return (slots, num, errs)
  else return (slots, num + 1, errs)

/-- `DecodeBatch`. -/
def decodeBatch (summary : Summary) : Exec (MetricsBatch × Option (List DecodeError)) := do
  let (node, errs) ← decodeNodeStats summary.node {}
  let slots : List PodMetricsPoint := List.replicate summary.pods.length {}
  let (slots, num, errs) ← summary.pods.foldlM podTurn (slots, 0, errs)
  return ({ ip := summary.ip, node := node, pods := slots.take num }, newAggregate errs)

/-! ## What a pod decodes to -/

section Raises

variable {p : Fault Frame → Prop} (hp : ∀ frame, p ⟨.nilDereference, frame⟩)

include hp

theorem raises_decodeMemory (target : MetricsPoint) (memStats : Option MemoryStats) :
    Raises p (decodeMemory target memStats) := by
  unfold decodeMemory
  cases memStats with
  | none => exact raises_ok _
  | some memory =>
      cases hset : memory.workingSetBytes with
      | none =>
          simp only [hset]
          exact raises_ok _
      | some workingSet =>
          simp only [hset]
          exact raises_bind (raises_deref (hp _) _) fun usage _ => raises_ok _

theorem raises_decodeFs (target : MetricsPoint) (fsStats : Option FsStats) :
    Raises p (decodeFs target fsStats) := by
  unfold decodeFs
  cases fsStats with
  | none => exact raises_ok _
  | some fs =>
      refine raises_bind (raises_deref (hp _) _) fun available _ => ?_
      exact raises_bind (raises_deref (hp _) _) fun capacity _ => raises_ok _

/-- A node faults on a `nil` counter only. -/
theorem raises_decodeNodeStats (nodeStats : NodeStats) (target : NodeMetricsPoint) :
    Raises p (decodeNodeStats nodeStats target) := by
  unfold decodeNodeStats
  cases getScrapeTimeNode nodeStats.cpu nodeStats.memory nodeStats.network nodeStats.fs with
  | error err => exact raises_ok _
  | ok timestamp =>
      refine raises_bind (raises_decodeMemory hp _ _) fun memory _ => ?_
      exact raises_bind (raises_decodeFs hp _ _) fun fs _ => raises_ok _

/-- And so does a pod. -/
theorem raises_decodePodStats (podStats : PodStats) (target : PodMetricsPoint) :
    Raises p (decodePodStats podStats target) := by
  unfold decodePodStats
  cases getScrapeTimePod podStats.cpu podStats.memory with
  | error err => exact raises_ok _
  | ok timestamp =>
      refine raises_bind (raises_decodeMemory hp _ _) fun memory _ => ?_
      exact raises_bind (raises_decodeFs hp _ _) fun fs _ => raises_ok _

end Raises

/-- A pod without a time leaves its target alone and reports an error. -/
theorem decodePodStats_of_error {podStats : PodStats} {err : String}
    (htime : getScrapeTimePod podStats.cpu podStats.memory = .error err)
    (target : PodMetricsPoint) :
    decodePodStats podStats target = .ok (target,
      [⟨"unable to get valid timestamp for metric point for pod %q, discarding data: %v",
        podStats.podRef.name, err⟩]) := by
  unfold decodePodStats
  rw [htime]
  rfl

/-- Any other pod overwrites it. -/
theorem decodePodStats_of_ok {podStats : PodStats} {timestamp : Time}
    (htime : getScrapeTimePod podStats.cpu podStats.memory = .ok timestamp)
    (target target' : PodMetricsPoint) :
    decodePodStats podStats target = decodePodStats podStats target' := by
  unfold decodePodStats
  rw [htime]

theorem decodePodStats_overwrites (podStats : PodStats) : Overwrites decodePodStats podStats := by
  cases htime : getScrapeTimePod podStats.cpu podStats.memory with
  | error err =>
      constructor
      · intro target target' fault h
        rw [decodePodStats_of_error htime] at h
        cases h
      · intro target target' filled errs h
        rw [decodePodStats_of_error htime] at h
        cases h
        exact ⟨target', decodePodStats_of_error htime target',
          fun h => absurd h (List.cons_ne_nil _ _)⟩
  | ok timestamp =>
      constructor
      · intro target target' fault h
        rw [decodePodStats_of_ok htime target' target]
        exact h
      · intro target target' filled errs h
        rw [decodePodStats_of_ok htime target' target]
        exact ⟨filled, h, fun _ => rfl⟩

/-! ## What a summary decodes to -/

/-- The turn of the loop over the pods is the library's. -/
theorem podTurn_eq : podTurn = turn .decodeBatch decodePodStats := by
  funext acc pod
  obtain ⟨slots, num, errs⟩ := acc
  unfold podTurn turn
  dsimp only
  cases index Frame.decodeBatch slots num with
  | error fault => rfl
  | ok target =>
      rw [ok_bind, ok_bind]
      cases decodePodStats pod target with
      | error fault => rfl
      | ok decoded =>
          obtain ⟨filled, podErrs⟩ := decoded
          cases podErrs with
          | nil => rfl
          | cons err podErrs => rfl

theorem newAggregate_eq_none {errs : List DecodeError} : newAggregate errs = none ↔ errs = [] := by
  unfold newAggregate
  by_cases hnone : errs = []
  · simp [hnone]
  · simp [hnone]

/-- If the node and every pod return by themselves, so does the batch, with the
pods that report no error. -/
theorem decodeBatch_of_decoded {summary : Summary} {node : NodeMetricsPoint}
    {nodeErrs : List DecodeError} (hnode : decodeNodeStats summary.node {} = .ok (node, nodeErrs))
    {decoded : List (PodMetricsPoint × List DecodeError)}
    (hpods : summary.pods.mapM (fun pod => decodePodStats pod {}) = .ok decoded) :
    decodeBatch summary = .ok ({ ip := summary.ip, node := node, pods := complete decoded },
      newAggregate (nodeErrs ++ decoded.flatMap Prod.snd)) := by
  rcases compact_ok .decodeBatch (fun pod _ => decodePodStats_overwrites pod) hpods []
    (List.replicate summary.pods.length {}) (by simp) nodeErrs with ⟨free, hloop⟩
  rw [← podTurn_eq] at hloop
  unfold decodeBatch
  rw [hnode, ok_bind]
  dsimp only
  rw [List.nil_append, List.nil_append] at hloop
  rw [show (0 : Nat) = ([] : List PodMetricsPoint).length from rfl, hloop, ok_bind]
  simp

/-- If the node faults, so does the batch. -/
theorem decodeBatch_of_node_fault {summary : Summary} {fault : Fault Frame}
    (hnode : decodeNodeStats summary.node {} = .error fault) :
    decodeBatch summary = .error fault := by
  unfold decodeBatch
  rw [hnode, error_bind]

/-- And if a pod does, then where the first such pod does. -/
theorem decodeBatch_of_pod_fault {summary : Summary} {node : NodeMetricsPoint}
    {nodeErrs : List DecodeError} (hnode : decodeNodeStats summary.node {} = .ok (node, nodeErrs))
    {fault : Fault Frame}
    (hpods : summary.pods.mapM (fun pod => decodePodStats pod {}) = .error fault) :
    decodeBatch summary = .error fault := by
  have hloop := compact_error .decodeBatch (fun pod _ => decodePodStats_overwrites pod) hpods []
    (List.replicate summary.pods.length {}) (by simp) nodeErrs
  rw [← podTurn_eq] at hloop
  unfold decodeBatch
  rw [hnode, ok_bind]
  dsimp only
  rw [show (0 : Nat) = ([] : List PodMetricsPoint).length from rfl,
    ← List.nil_append (List.replicate _ _), hloop, error_bind]

/-- So a batch that returns comes from a node and pods that all do. -/
theorem decodeBatch_eq_ok {summary : Summary} {batch : MetricsBatch}
    {err : Option (List DecodeError)} (h : decodeBatch summary = .ok (batch, err)) :
    ∃ node nodeErrs decoded, decodeNodeStats summary.node {} = .ok (node, nodeErrs) ∧
      summary.pods.mapM (fun pod => decodePodStats pod {}) = .ok decoded ∧
      batch = { ip := summary.ip, node := node, pods := complete decoded } ∧
      err = newAggregate (nodeErrs ++ decoded.flatMap Prod.snd) := by
  cases hnode : decodeNodeStats summary.node {} with
  | error fault =>
      rw [decodeBatch_of_node_fault hnode] at h
      cases h
  | ok result =>
      obtain ⟨node, nodeErrs⟩ := result
      cases hpods : summary.pods.mapM (fun pod => decodePodStats pod {}) with
      | error fault =>
          rw [decodeBatch_of_pod_fault hnode hpods] at h
          cases h
      | ok decoded =>
          rw [decodeBatch_of_decoded hnode hpods] at h
          cases h
          exact ⟨node, nodeErrs, decoded, rfl, rfl, rfl, rfl⟩

/-- The batch has exactly the complete pods, in order and each as it decodes
into a fresh point, and the error is `nil` exactly when there was none. -/
def Exact (summary : Summary) (batch : MetricsBatch) (err : Option (List DecodeError)) : Prop :=
  ∃ node nodeErrs decoded, decodeNodeStats summary.node {} = .ok (node, nodeErrs) ∧
    summary.pods.mapM (fun pod => decodePodStats pod {}) = .ok decoded ∧
    batch.pods = (decoded.filter fun pod => pod.2.isEmpty).map Prod.fst ∧
    (err = none ↔ nodeErrs = [] ∧ ∀ pod ∈ decoded, pod.2 = [])

/-- A summary on which no `nil` counter is dereferenced decodes to an exact
batch. -/
theorem decodeBatch_exact (summary : Summary)
    (hcounters : ∀ frame, decodeBatch summary ≠ .error ⟨.nilDereference, frame⟩) :
    ∃ batch err, decodeBatch summary = .ok (batch, err) ∧ Exact summary batch err := by
  cases hrun : decodeBatch summary with
  | error fault =>
      have hnode' := @raises_decodeNodeStats (fun fault => fault.kind = .nilDereference)
        (fun _ => rfl) summary.node {}
      have hpod' := @raises_decodePodStats (fun fault => fault.kind = .nilDereference)
        (fun _ => rfl)
      have hkind : fault.kind = .nilDereference := by
        cases hnode : decodeNodeStats summary.node {} with
        | error fault' =>
            rw [decodeBatch_of_node_fault hnode] at hrun
            cases hrun
            exact hnode' _ hnode
        | ok result =>
            cases hpods : summary.pods.mapM (fun pod => decodePodStats pod {}) with
            | error fault' =>
                rw [decodeBatch_of_pod_fault hnode hpods] at hrun
                cases hrun
                rcases mapM_eq_error hpods with ⟨pod, -, hpod⟩
                exact hpod' pod {} _ hpod
            | ok decoded =>
                rw [decodeBatch_of_decoded hnode hpods] at hrun
                cases hrun
      obtain ⟨kind, frame⟩ := fault
      cases hkind
      exact absurd hrun (hcounters frame)
  | ok result =>
      obtain ⟨batch, err⟩ := result
      rcases decodeBatch_eq_ok hrun with ⟨node, nodeErrs, decoded, hnode, hpods, rfl, rfl⟩
      refine ⟨_, _, rfl, node, nodeErrs, decoded, hnode, hpods, rfl, ?_⟩
      rw [newAggregate_eq_none, List.append_eq_nil_iff, List.flatMap_eq_nil_iff]

/-- A pod with all its sections. -/
def completePod (name : String) : PodStats where
  podRef := { name := name, podNamespace := "userpod" }
  cpu := some { time := 5, usageNanoCores := some 1 }
  memory := some { time := 5, usageBytes := some 2, workingSetBytes := some 2 }
  ephemeralStorage := some { time := 5, availableBytes := some 3, capacityBytes := some 4 }

/-- Two complete pods around one whose memory is missing. -/
def mixedSummary : Summary where
  pods := [completePod "a", { completePod "b" with memory := none }, completePod "c"]

theorem decodeBatch_exact_on_mixed_summary :
    ∃ batch err, decodeBatch mixedSummary = .ok (batch, err) ∧ Exact mixedSummary batch err := by
  obtain ⟨result, hrun⟩ : ∃ result, decodeBatch mixedSummary = .ok result := ⟨_, rfl⟩
  apply decodeBatch_exact
  intro frame h
  rw [hrun] at h
  cases h

/-- The pod in the middle is dropped, and its slot goes to the next. -/
example : (decodeBatch mixedSummary).map (fun result => result.1.pods.map PodMetricsPoint.name) =
    .ok ["a", "c"] := by
  rfl

end MetricCollector.Decode
