import MetricCollector.Decode
import Mathlib.Algebra.Order.Field.Rat

/-!
# The sections of a node or a pod

A node and a pod are decoded by the same three helpers, from their CPU, memory
and filesystem sections.  This module says what the helpers do to a point, in
terms of the counters, for both callers at once.

* The counters.  `Metric` names the nine quantities of a point, and
  `Sections.total` is what the sections report for one.
* The helpers.  `Sections.filled` is the counter that they write to a quantity,
  and `decode_of_counted` says that they write these and nothing else.
* The time.  `Untimed` says that no section has a time, and `scrapeTime_cases`
  says that the two searches for a time fail in this case only.
* The two callers, `decodeNodeStats` and `decodePodStats`.
-/

namespace MetricCollector.Decode

open GoLib Resource Storage Stats

/-! ## The counters -/

/-- The quantities of a `MetricsPoint`. -/
inductive Metric where
  | cpuUsage
  | memoryUsage
  | memoryAvailable
  | memoryWorkingSet
  | networkRx
  | networkTx
  | fsAvailable
  | fsCapacity
  | fsUsed
deriving DecidableEq, Repr

/-- The field of a point. -/
def Metric.read (point : MetricsPoint) : Metric → Quantity
  | .cpuUsage => point.cpuUsageNanoCores
  | .memoryUsage => point.memoryUsageBytes
  | .memoryAvailable => point.memoryAvailableBytes
  | .memoryWorkingSet => point.memoryWorkingSetBytes
  | .networkRx => point.networkRxBytes
  | .networkTx => point.networkTxBytes
  | .fsAvailable => point.fsAvailableBytes
  | .fsCapacity => point.fsCapacityBytes
  | .fsUsed => point.fsUsedBytes

/-- The power of ten that a counter counts in. -/
def Metric.scale : Metric → Int
  | .cpuUsage => -9
  | _ => 0

/-- The quantity that a counter becomes. -/
def Metric.convert (m : Metric) (val : UInt64) : Quantity :=
  match m with
  | .cpuUsage => uint64Quantity val (-9)
  | _ => bytesQuantity val

/-- The network metrics, which no helper that is called fills. -/
def Metric.isNetwork : Metric → Bool
  | .networkRx => true
  | .networkTx => true
  | _ => false

/-- The number that a quantity stands for. -/
def amount (q : Quantity) : ℚ := q.value.toInt * 10 ^ q.scale

/-- The sections that a point is decoded from. -/
structure Sections where
  cpu : Option CPUStats
  memory : Option MemoryStats
  network : Option NetworkStats
  fs : Option FsStats

/-- The sections of a node. -/
def nodeSections (nodeStats : NodeStats) : Sections :=
  ⟨nodeStats.cpu, nodeStats.memory, nodeStats.network, nodeStats.fs⟩

/-- The sections of a pod. -/
def podSections (podStats : PodStats) : Sections :=
  ⟨podStats.cpu, podStats.memory, podStats.network, podStats.ephemeralStorage⟩

/-- The sum of one direction over the interfaces, if each of them counts it. -/
def interfaceSum (counter : InterfaceStats → Option UInt64) (network : NetworkStats) : Option Nat :=
  (network.interfaces.mapM counter).map fun vals => (vals.map UInt64.toNat).sum

/-- What the sections report for a metric. -/
def Sections.total (s : Sections) : Metric → Option Nat
  | .cpuUsage => (s.cpu.bind CPUStats.usageNanoCores).map UInt64.toNat
  | .memoryUsage => (s.memory.bind MemoryStats.usageBytes).map UInt64.toNat
  | .memoryAvailable => (s.memory.bind MemoryStats.availableBytes).map UInt64.toNat
  | .memoryWorkingSet => (s.memory.bind MemoryStats.workingSetBytes).map UInt64.toNat
  | .networkRx => s.network.bind (interfaceSum InterfaceStats.rxBytes)
  | .networkTx => s.network.bind (interfaceSum InterfaceStats.txBytes)
  | .fsAvailable => (s.fs.bind FsStats.availableBytes).map UInt64.toNat
  | .fsCapacity => (s.fs.bind FsStats.capacityBytes).map UInt64.toNat
  | .fsUsed => (s.fs.bind FsStats.usedBytes).map UInt64.toNat

/-- No counter that is followed without a test is `nil`. -/
structure Sections.Counted (s : Sections) : Prop where
  memory : ∀ memory, s.memory = some memory → memory.workingSetBytes.isSome →
    memory.usageBytes.isSome
  fs : ∀ fs, s.fs = some fs → fs.availableBytes.isSome ∧ fs.capacityBytes.isSome

/-! ## The helpers -/

/-- The three helpers in the order of their calls, on a point with its time:
the point and their errors. -/
def Sections.decode (s : Sections) (timestamp : Time) :
    Exec (MetricsPoint × Option String × Option String × Option String) := do
  let (point, cpuErr) := decodeCPU { timestamp := timestamp } s.cpu
  let (point, memErr) ← decodeMemory point s.memory
  let (point, fsErr) ← decodeFs point s.fs
  return (point, cpuErr, memErr, fsErr)

/-- The counter that the helpers write to a quantity. -/
def Sections.filled (s : Sections) : Metric → Option UInt64
  | .cpuUsage => s.cpu.bind CPUStats.usageNanoCores
  | .memoryUsage => s.memory.bind fun m => m.workingSetBytes.bind fun _ => m.usageBytes
  | .memoryAvailable => s.memory.bind fun m => m.workingSetBytes.bind fun _ => m.availableBytes
  | .memoryWorkingSet => s.memory.bind MemoryStats.workingSetBytes
  | .networkRx => none
  | .networkTx => none
  | .fsAvailable => s.fs.bind FsStats.availableBytes
  | .fsCapacity => s.fs.bind FsStats.capacityBytes
  | .fsUsed => s.fs.map fun f => f.usedBytes.getD 0

/-- The quantity that the helpers leave; a quantity that nothing is written to
is the zero value. -/
def Sections.fill (s : Sections) (m : Metric) : Quantity := ((s.filled m).map m.convert).getD {}

/-- What the helpers make of the sections. -/
structure Filled (s : Sections) (timestamp : Time)
    (out : MetricsPoint × Option String × Option String × Option String) : Prop where
  timestamp : out.1.timestamp = timestamp
  quantities : ∀ m, Metric.read out.1 m = s.fill m
  cpuErr : out.2.1 = none ↔ (s.filled .cpuUsage).isSome
  memErr : out.2.2.1 = none ↔ (s.filled .memoryWorkingSet).isSome
  fsErr : out.2.2.2 = none ↔ s.fs.isSome

/-- A memory section with its two required counters. -/
theorem decodeMemory_of_some (target : MetricsPoint) {memory : MemoryStats}
    {workingSet usage : UInt64} (hworkingSet : memory.workingSetBytes = some workingSet)
    (husage : memory.usageBytes = some usage) :
    decodeMemory target (some memory) = .ok ({ target with
      memoryUsageBytes := bytesQuantity usage
      memoryAvailableBytes :=
        (memory.availableBytes.map bytesQuantity).getD target.memoryAvailableBytes
      memoryWorkingSetBytes := bytesQuantity workingSet }, none) := by
  obtain ⟨time, available, usage, workingSet⟩ := memory
  cases hworkingSet
  cases husage
  cases available with
  | none => rfl
  | some available => rfl

/-- One without its working set is reported. -/
theorem decodeMemory_of_none (target : MetricsPoint) {memory : Option MemoryStats}
    (hmissing : memory.bind MemoryStats.workingSetBytes = none) :
    decodeMemory target memory = .ok (target, some "missing memory usage metric") := by
  cases memory with
  | none => rfl
  | some memory =>
      obtain ⟨time, available, usage, workingSet⟩ := memory
      cases hmissing
      rfl

/-- And one with it alone is a fault. -/
theorem decodeMemory_of_nil (target : MetricsPoint) {memory : MemoryStats} {workingSet : UInt64}
    (hworkingSet : memory.workingSetBytes = some workingSet) (husage : memory.usageBytes = none) :
    decodeMemory target (some memory) = .error ⟨.nilDereference, .decodeMemory⟩ := by
  obtain ⟨time, available, usage, workingSet⟩ := memory
  cases hworkingSet
  cases husage
  rfl

/-- A filesystem section with its two required counters. -/
theorem decodeFs_of_some (target : MetricsPoint) {fs : FsStats} {available capacity : UInt64}
    (havailable : fs.availableBytes = some available) (hcapacity : fs.capacityBytes = some capacity) :
    decodeFs target (some fs) = .ok ({ target with
      fsAvailableBytes := bytesQuantity available
      fsCapacityBytes := bytesQuantity capacity
      fsUsedBytes := bytesQuantity (fs.usedBytes.getD 0) }, none) := by
  obtain ⟨time, available, capacity, used⟩ := fs
  cases havailable
  cases hcapacity
  rfl

/-- One that lacks either is a fault. -/
theorem decodeFs_of_nil (target : MetricsPoint) {fs : FsStats}
    (hmissing : fs.availableBytes = none ∨ fs.capacityBytes = none) :
    decodeFs target (some fs) = .error ⟨.nilDereference, .decodeFs⟩ := by
  obtain ⟨time, available, capacity, used⟩ := fs
  cases available with
  | none => rfl
  | some available =>
      rcases hmissing with hmissing | hmissing
      · cases hmissing
      · cases hmissing
        rfl

/-- The CPU of a point is what the section fills. -/
theorem decodeCPU_eq (s : Sections) {target : MetricsPoint} (husage : target.cpuUsageNanoCores = {}) :
    ∃ err, decodeCPU target s.cpu = ({ target with cpuUsageNanoCores := s.fill .cpuUsage }, err) ∧
      (err = none ↔ (s.filled .cpuUsage).isSome) := by
  obtain ⟨cpu, memory, network, fs⟩ := s
  unfold decodeCPU Sections.fill Sections.filled
  dsimp only
  cases cpu.bind CPUStats.usageNanoCores with
  | none =>
      refine ⟨some "missing cpu usage metric", ?_, by simp⟩
      obtain ⟨timestamp, cpuUsage, usage, available, workingSet, rx, tx, fsA, fsC, fsU⟩ := target
      cases husage
      rfl
  | some usage => exact ⟨none, rfl, by simp⟩

/-- So is the memory. -/
theorem decodeMemory_eq {s : Sections} (hcounted : s.Counted) {target : MetricsPoint}
    (husage : target.memoryUsageBytes = {}) (havailable : target.memoryAvailableBytes = {})
    (hworkingSet : target.memoryWorkingSetBytes = {}) :
    ∃ err, decodeMemory target s.memory = .ok ({ target with
        memoryUsageBytes := s.fill .memoryUsage
        memoryAvailableBytes := s.fill .memoryAvailable
        memoryWorkingSetBytes := s.fill .memoryWorkingSet }, err) ∧
      (err = none ↔ (s.filled .memoryWorkingSet).isSome) := by
  obtain ⟨cpu, memory, network, fs⟩ := s
  have hcases := hcounted.memory
  unfold Sections.fill Sections.filled
  dsimp only at hcases ⊢
  cases hmissing : memory.bind MemoryStats.workingSetBytes with
  | none =>
      refine ⟨some "missing memory usage metric",
        (decodeMemory_of_none target hmissing).trans ?_, by simp⟩
      -- without a working set the other two counters are not looked at
      have hnone : ∀ counter : MemoryStats → Option UInt64,
          (memory.bind fun m => m.workingSetBytes.bind fun _ => counter m) = none := by
        intro counter
        cases memory with
        | none => rfl
        | some memory =>
            rw [Option.bind_some] at hmissing ⊢
            rw [hmissing]
            rfl
      rw [hnone MemoryStats.usageBytes, hnone MemoryStats.availableBytes]
      obtain ⟨timestamp, cpuUsage, usage, available, workingSet, rx, tx, fsA, fsC, fsU⟩ := target
      cases husage
      cases havailable
      cases hworkingSet
      rfl
  | some workingSet =>
      rcases Option.bind_eq_some_iff.mp hmissing with ⟨memory, rfl, hset⟩
      obtain ⟨usage, hused⟩ := Option.isSome_iff_exists.mp (hcases memory rfl (by simp [hset]))
      refine ⟨none, (decodeMemory_of_some target hset hused).trans ?_, by simp⟩
      rw [Option.bind_some, Option.bind_some, hset, Option.bind_some, Option.bind_some, hused,
        havailable]
      rfl

/-- And so is the filesystem. -/
theorem decodeFs_eq {s : Sections} (hcounted : s.Counted) {target : MetricsPoint}
    (havailable : target.fsAvailableBytes = {}) (hcapacity : target.fsCapacityBytes = {})
    (hused : target.fsUsedBytes = {}) :
    ∃ err, decodeFs target s.fs = .ok ({ target with
        fsAvailableBytes := s.fill .fsAvailable
        fsCapacityBytes := s.fill .fsCapacity
        fsUsedBytes := s.fill .fsUsed }, err) ∧
      (err = none ↔ s.fs.isSome) := by
  obtain ⟨cpu, memory, network, fs⟩ := s
  have hcases := hcounted.fs
  unfold Sections.fill Sections.filled
  dsimp only at hcases ⊢
  cases fs with
  | none =>
      refine ⟨some "missing FS usage metric", ?_, by simp⟩
      obtain ⟨timestamp, cpuUsage, usage, available, workingSet, rx, tx, fsA, fsC, fsU⟩ := target
      cases havailable
      cases hcapacity
      cases hused
      rfl
  | some fs =>
      rcases hcases fs rfl with ⟨ha, hc⟩
      obtain ⟨available, ha⟩ := Option.isSome_iff_exists.mp ha
      obtain ⟨capacity, hc⟩ := Option.isSome_iff_exists.mp hc
      refine ⟨none, (decodeFs_of_some target ha hc).trans ?_, by simp⟩
      rw [Option.bind_some, Option.bind_some, ha, hc]
      rfl

/-- On counted sections the helpers return, and fill what they fill. -/
theorem decode_of_counted {s : Sections} (hcounted : s.Counted) (timestamp : Time) :
    ∃ out, s.decode timestamp = .ok out ∧ Filled s timestamp out := by
  let afterCPU : MetricsPoint := { timestamp := timestamp, cpuUsageNanoCores := s.fill .cpuUsage }
  let afterMemory : MetricsPoint := { afterCPU with
    memoryUsageBytes := s.fill .memoryUsage
    memoryAvailableBytes := s.fill .memoryAvailable
    memoryWorkingSetBytes := s.fill .memoryWorkingSet }
  rcases @decodeCPU_eq s { timestamp := timestamp } rfl with ⟨cpuErr, hcpu, hcpuErr⟩
  rcases @decodeMemory_eq s hcounted afterCPU rfl rfl rfl with ⟨memErr, hmemory, hmemErr⟩
  rcases @decodeFs_eq s hcounted afterMemory rfl rfl rfl with ⟨fsErr, hfs, hfsErr⟩
  have hrun : s.decode timestamp = .ok ({ afterMemory with
      fsAvailableBytes := s.fill .fsAvailable
      fsCapacityBytes := s.fill .fsCapacity
      fsUsedBytes := s.fill .fsUsed }, cpuErr, memErr, fsErr) := by
    unfold Sections.decode
    rw [hcpu]
    dsimp only
    rw [hmemory, ok_bind]
    dsimp only
    rw [hfs, ok_bind]
    rfl
  refine ⟨_, hrun, rfl, ?_, hcpuErr, hmemErr, hfsErr⟩
  intro m
  cases m <;> rfl

/-- On any other they do not return. -/
theorem counted_of_decode {s : Sections} {timestamp : Time}
    {out : MetricsPoint × Option String × Option String × Option String}
    (h : s.decode timestamp = .ok out) : s.Counted := by
  obtain ⟨cpu, memory, network, fs⟩ := s
  rcases bind_eq_ok.mp h with ⟨memoryOut, hmemory, h⟩
  rcases bind_eq_ok.mp h with ⟨fsOut, hfs, -⟩
  constructor
  · rintro m rfl hset
    obtain ⟨workingSet, hset⟩ := Option.isSome_iff_exists.mp hset
    by_contra hmissing
    rw [Option.not_isSome_iff_eq_none] at hmissing
    rw [decodeMemory_of_nil _ hset hmissing] at hmemory
    cases hmemory
  · rintro f rfl
    by_contra hmissing
    rw [not_and_or, Option.not_isSome_iff_eq_none, Option.not_isSome_iff_eq_none] at hmissing
    rw [decodeFs_of_nil _ hmissing] at hfs
    cases hfs

/-! ## The time -/

/-- No section has a time. -/
def Untimed (times : List (Option Time)) : Prop := ∀ t, some t ∈ times → t = 0

/-- The times that are looked at for a node. -/
def nodeTimes (nodeStats : NodeStats) : List (Option Time) :=
  [nodeStats.cpu.map CPUStats.time, nodeStats.memory.map MemoryStats.time,
    nodeStats.network.map NetworkStats.time, nodeStats.fs.map FsStats.time]

/-- And for a pod. -/
def podTimes (podStats : PodStats) : List (Option Time) :=
  [podStats.cpu.map CPUStats.time, podStats.memory.map MemoryStats.time]

/-- A turn finds a time if there was one before, or the section has one. -/
theorem earlier_eq_none {earliest time : Option Time} :
    earlier earliest time = none ↔ earliest = none ∧ ∀ t, time = some t → t = 0 := by
  unfold earlier
  cases time with
  | none => simp
  | some t =>
      cases earliest with
      | none => simp
      | some e =>
          dsimp only
          split_ifs <;> simp

/-- And what it finds is not the zero time. -/
theorem earlier_ne_zero {earliest time : Option Time} (h : ∀ e, earliest = some e → e ≠ 0) (t : Time)
    (ht : earlier earliest time = some t) : t ≠ 0 := by
  unfold earlier at ht
  cases time with
  | none => exact h t ht
  | some t' =>
      cases earliest with
      | none =>
          dsimp only at ht
          split_ifs at ht with hzero
          · cases ht
            exact hzero
      | some e =>
          dsimp only at ht
          split_ifs at ht with hbefore
          · cases ht
            exact hbefore.1
          · cases ht
            exact h t rfl

/-- The search finds a time unless no section has one. -/
theorem scrapeTime_cases (times : List (Option Time)) :
    (Untimed times ∧ scrapeTime (times.foldl earlier none) =
      .error "no non-zero timestamp on either CPU or memory") ∨
    (¬Untimed times ∧ ∃ t ≠ 0, scrapeTime (times.foldl earlier none) = .ok t) := by
  have hfold : ∀ (times : List (Option Time)) (earliest : Option Time),
      (∀ e, earliest = some e → e ≠ 0) →
      (times.foldl earlier earliest = none ↔ earliest = none ∧ Untimed times) ∧
        ∀ t, times.foldl earlier earliest = some t → t ≠ 0 := by
    intro times
    induction times with
    | nil =>
        intro earliest hearliest
        exact ⟨by simp [Untimed], hearliest⟩
    | cons time times ih =>
        intro earliest hearliest
        rcases ih (earlier earliest time) (earlier_ne_zero hearliest) with ⟨hnone, hsome⟩
        refine ⟨?_, hsome⟩
        rw [List.foldl_cons, hnone, earlier_eq_none, and_assoc]
        unfold Untimed
        simp only [List.mem_cons, or_imp, forall_and, eq_comm]
  rcases hfold times none (fun e h => by cases h) with ⟨hnone, hsome⟩
  cases hfound : times.foldl earlier none with
  | none => exact Or.inl ⟨(hnone.mp hfound).2, rfl⟩
  | some t =>
      refine Or.inr ⟨?_, t, hsome t hfound, rfl⟩
      intro huntimed
      rw [hnone.mpr ⟨rfl, huntimed⟩] at hfound
      cases hfound

/-! ## The callers -/

/-- What the two callers of the helpers differ in. -/
structure Caller (P : Type) where
  times : List (Option Time)
  sections : Sections
  name : String
  timeFormat : String
  cpuFormat : String
  memFormat : String
  fsFormat : String
  place : MetricsPoint → P

/-- A node. -/
def nodeCaller (nodeStats : NodeStats) : Caller NodeMetricsPoint where
  times := nodeTimes nodeStats
  sections := nodeSections nodeStats
  name := nodeStats.nodeName
  timeFormat := "unable to get valid timestamp for metric point for node %q, discarding data: %v"
  cpuFormat := "unable to get CPU for node %q, discarding data: %v"
  memFormat := "unable to get memory for node %q, discarding data: %v"
  fsFormat := "unable to get FS for node %q, discarding data: %v"
  place point := { name := nodeStats.nodeName, metricsPoint := point }

/-- A pod. -/
def podCaller (podStats : PodStats) : Caller PodMetricsPoint where
  times := podTimes podStats
  sections := podSections podStats
  name := podStats.podRef.name
  timeFormat := "unable to get valid timestamp for metric point for pod %q, discarding data: %v"
  cpuFormat := "unable to get CPU for pod %q, discarding data: %v"
  memFormat := "unable to get memory for pod %q, discarding data: %v"
  fsFormat := "unable to get Fs for pod %q, discarding data: %v"
  place point := { name := podStats.podRef.name, podNamespace := podStats.podRef.podNamespace,
                   metricsPoint := point }

variable {P : Type}

/-- The errors of the three helpers, each in its format. -/
def Caller.report (caller : Caller P) (errs : Option String × Option String × Option String) :
    List DecodeError :=
  wrap caller.cpuFormat caller.name errs.1 ++ wrap caller.memFormat caller.name errs.2.1 ++
    wrap caller.fsFormat caller.name errs.2.2

/-- The body that the callers share. -/
def Caller.decode (caller : Caller P) (target : P) : Exec (P × List DecodeError) :=
  match scrapeTime (caller.times.foldl earlier none) with
  | .error err => .ok (target, [⟨caller.timeFormat, caller.name, err⟩])
  | .ok timestamp => caller.sections.decode timestamp >>= fun out =>
      .ok (caller.place out.1, caller.report out.2)

theorem decodeNodeStats_eq (nodeStats : NodeStats) :
    decodeNodeStats nodeStats = (nodeCaller nodeStats).decode := by
  funext target
  have htime : getScrapeTimeNode nodeStats.cpu nodeStats.memory nodeStats.network nodeStats.fs =
    scrapeTime ((nodeCaller nodeStats).times.foldl earlier none) := rfl
  unfold decodeNodeStats Caller.decode
  rw [htime]
  cases scrapeTime ((nodeCaller nodeStats).times.foldl earlier none) with
  | error err => rfl
  | ok timestamp =>
      dsimp only [Sections.decode, nodeCaller, nodeSections]
      cases decodeMemory (decodeCPU { timestamp := timestamp } nodeStats.cpu).1 nodeStats.memory with
      | error fault => rfl
      | ok memory =>
          obtain ⟨point, memErr⟩ := memory
          rw [ok_bind, ok_bind]
          cases decodeFs point nodeStats.fs with
          | error fault => rfl
          | ok fs => rfl

theorem decodePodStats_eq (podStats : PodStats) :
    decodePodStats podStats = (podCaller podStats).decode := by
  funext target
  have htime : getScrapeTimePod podStats.cpu podStats.memory =
    scrapeTime ((podCaller podStats).times.foldl earlier none) := rfl
  unfold decodePodStats Caller.decode
  rw [htime]
  cases scrapeTime ((podCaller podStats).times.foldl earlier none) with
  | error err => rfl
  | ok timestamp =>
      dsimp only [Sections.decode, podCaller, podSections]
      cases decodeMemory (decodeCPU { timestamp := timestamp } podStats.cpu).1 podStats.memory with
      | error fault => rfl
      | ok memory =>
          obtain ⟨point, memErr⟩ := memory
          rw [ok_bind, ok_bind]
          cases decodeFs point podStats.ephemeralStorage with
          | error fault => rfl
          | ok fs => rfl

theorem report_eq_nil {caller : Caller P} {errs : Option String × Option String × Option String} :
    caller.report errs = [] ↔ errs.1 = none ∧ errs.2.1 = none ∧ errs.2.2 = none := by
  unfold Caller.report wrap
  simp

theorem name_of_mem_report {caller : Caller P}
    {errs : Option String × Option String × Option String} {err : DecodeError}
    (h : err ∈ caller.report errs) : err.name = caller.name := by
  unfold Caller.report wrap at h
  simp only [List.mem_append, List.mem_map] at h
  rcases h with (⟨e, -, rfl⟩ | ⟨e, -, rfl⟩) | ⟨e, -, rfl⟩ <;> rfl

/-- Without a time, the target is left alone and one error is reported. -/
structure Discarded (caller : Caller P) (target out : P) (errs : List DecodeError) : Prop where
  untimed : Untimed caller.times
  kept : out = target
  reported : ∃ err, errs = [err] ∧ err.name = caller.name

/-- With one, the point is what the sections fill. -/
structure Decoded (caller : Caller P) (point : MetricsPoint) (errs : List DecodeError) : Prop where
  timed : ¬Untimed caller.times
  counted : caller.sections.Counted
  timestamp : point.timestamp ≠ 0
  quantities : ∀ m, Metric.read point m = caller.sections.fill m
  named : ∀ err ∈ errs, err.name = caller.name
  clean : errs = [] ↔ (caller.sections.filled .cpuUsage).isSome ∧
    (caller.sections.filled .memoryWorkingSet).isSome ∧ caller.sections.fs.isSome

/-- The two ways to return. -/
theorem decode_cases {caller : Caller P} {target out : P} {errs : List DecodeError}
    (h : caller.decode target = .ok (out, errs)) :
    Discarded caller target out errs ∨
      ∃ point, out = caller.place point ∧ Decoded caller point errs := by
  unfold Caller.decode at h
  rcases scrapeTime_cases caller.times with ⟨huntimed, htime⟩ | ⟨htimed, t, ht, htime⟩
  · rw [htime] at h
    cases h
    exact Or.inl ⟨huntimed, rfl, _, rfl, rfl⟩
  · rw [htime] at h
    dsimp only at h
    rcases bind_eq_ok.mp h with ⟨result, hresult, h⟩
    cases h
    have hcounted := counted_of_decode hresult
    obtain ⟨result', hresult', hfilled⟩ := decode_of_counted hcounted t
    rw [hresult] at hresult'
    cases hresult'
    refine Or.inr ⟨result.1, rfl, htimed, hcounted, ?_, hfilled.quantities,
      fun _ => name_of_mem_report, ?_⟩
    · rw [hfilled.timestamp]
      exact ht
    · rw [report_eq_nil, hfilled.cpuErr, hfilled.memErr, hfilled.fsErr]

/-- A caller returns unless a counter that it follows is `nil`. -/
theorem caller_returns_iff (caller : Caller P) (target : P) :
    (∃ out, caller.decode target = .ok out) ↔
      (¬Untimed caller.times → caller.sections.Counted) := by
  constructor
  · intro h htimed
    rcases h with ⟨⟨out, errs⟩, h⟩
    rcases decode_cases h with hdiscarded | ⟨point, -, hdecoded⟩
    · exact absurd hdiscarded.untimed htimed
    · exact hdecoded.counted
  · intro h
    unfold Caller.decode
    rcases scrapeTime_cases caller.times with ⟨-, htime⟩ | ⟨htimed, t, -, htime⟩
    · rw [htime]
      exact ⟨_, rfl⟩
    · obtain ⟨result, hresult, -⟩ := decode_of_counted (h htimed) t
      rw [htime]
      dsimp only
      rw [hresult]
      exact ⟨_, rfl⟩

end MetricCollector.Decode
