import MetricCollector.Gpumpsmetric.Retry
import MetricCollector.Nvlink
import MetricCollector.Server

/-!
# The collector process

`main` sizes the tables of the collector once and starts its goroutines: the
main loop, which starts a collection cycle and then flushes the PCIe counters;
the sampler `Get_GPUPci`, which adds to them; every cycle of `Gpumetric` that is
still running; and the calls of the schedulers.  All of them share the variables
`Vars`.

`State` is the process with the position of each goroutine, and `step` lets one
of them go on.  The statements on the PCIe counters and the start of a cycle are
steps of their own.  One turn of the loop of `Gpumetric` is one step too, so the runs
here are those in which nothing else happens to a GPU while a cycle takes its turn for
it; two calls of `Gpumpsmetric` that do run into each other are in `Overlap`.  A fault
in any step ends the process.

* `startup` is `main` up to its loop.
* `sample_eq_ok`, `Statement.run_eq_ok` and `gpumetricTurn_eq_ok` are the pieces
  of code that address the tables, and `Serves` is what a call may do.
* `steps_of_step` says what each step can do.
-/

namespace MetricCollector.Main

open GoLib Schedule Grpcs Storage Gpumpsmetric Nvlink Server

/-! ## The variables -/

/-- The variables that the goroutines share.  `Node[0].NodeGPU` is `GPU`. -/
structure Vars where
  collector : Collector
  podmap : List GPUMAP := []
  tmprx : List Int64 := []
  tmptx : List Int64 := []

/-- `GPU`. -/
def Vars.gpus (v : Vars) : List GrpcGPU := v.collector.node.nodeGPU

/-- `GPU[i] = gpu`. -/
def Vars.setGPU (v : Vars) (i : Nat) (gpu : GrpcGPU) : Vars :=
  { v with collector := { v.collector with
      node := { v.collector.node with nodeGPU := v.gpus.set i gpu } } }

/-- The two ways of PCIe traffic. -/
inductive Direction where
  | rx
  | tx
deriving DecidableEq, Repr

/-- `tmprx` and `tmptx`. -/
def Vars.tmp (v : Vars) : Direction → List Int64
  | .rx => v.tmprx
  | .tx => v.tmptx

/-- `tmprx[i] = x` and `tmptx[i] = x`. -/
def Vars.setTmp (v : Vars) (d : Direction) (i : Nat) (x : Int64) : Vars :=
  match d with
  | .rx => { v with tmprx := v.tmprx.set i x }
  | .tx => { v with tmptx := v.tmptx.set i x }

/-- `GPURX` and `GPUTX` of a record. -/
def throughput (gpu : GrpcGPU) : Direction → Int64 → GrpcGPU
  | .rx, x => { gpu with gpuRX := x }
  | .tx, x => { gpu with gpuTX := x }

/-! ## The start -/

/-- What NVML says of a device at the start. -/
structure Profile where
  maxclock : UInt32 := 0
  cudacore : Int64 := 0
  gpuarch : UInt32 := 0
  maxOperating : UInt32 := 0
  shutdown : UInt32 := 0
  threshold : UInt32 := 0

/-- The record of a device before the first cycle. -/
def Profile.gpu (profile : Profile) : GrpcGPU where
  grpcGPUflops :=
    (profile.maxclock * profile.cudacore.toUInt64.toUInt32 * 2 / 1000).toUInt64.toInt64
  grpcGPUarch := profile.gpuarch.toUInt64.toInt64
  grpcGPUtemp := {
    maxOperating := profile.maxOperating.toUInt64.toInt64
    shutdown := profile.shutdown.toUInt64.toInt64
    threshold := profile.threshold.toUInt64.toInt64 }

variable {Device : Type}

/-- `nvml.Init` and `nvml.DeviceGetCount`.  The count is zero when a call fails. -/
def deviceCount (init : Bool) (nvml : Nvml Device) : Nat :=
  if init then nvml.deviceGetCount.getD 0 else 0

/-- The UUID of the GPU with index `i`. -/
def uuidAt (nvml : Nvml Device) (i : Nat) : String := nvml.getUUID (nvml.deviceGetHandleByIndex i)

/-- `main` up to its loop: the tables get an entry for each GPU. -/
def startup (init : Bool) (nvml : Nvml Device) (profile : Device → Profile) (name : String) :
    Exec Vars := do
  let count := deviceCount init nvml
  let gpuuuid := (List.range count).map (uuidAt nvml)
  let gpus := (List.range count).map fun i => (profile (nvml.deviceGetHandleByIndex i)).gpu
  let node ← getNvlinkInfo nvml {}
  let node := { node with
    nodeGPU := gpus
    grpcNodeUUID := gpuuuid
    grpcNodeCount := Int64.ofNat count
    grpcNodeName := name }
  return {
    collector := { node := node, gpuuuid := gpuuuid }
    tmprx := List.replicate count 0
    tmptx := List.replicate count 0 }

/-! ## The PCIe counters -/

/-- One addition of `Get_GPUPci`: `tmprx[i] += int(rxinfo)`, or the same for `tmptx`. -/
def sample (d : Direction) (i : Nat) (info : UInt32) (v : Vars) : Exec Vars := do
  let x ← index .getGPUPci (v.tmp d) i
  return v.setTmp d i (x + info.toUInt64.toInt64)

/-- The statements of `Get_RXTX_Data`. -/
inductive Statement where
  /-- `GPU[i].GPURX = tmprx[i]`, or the same for `GPUTX`. -/
  | read (d : Direction)
  /-- `tmprx[i] = 0`, or the same for `tmptx`. -/
  | reset (d : Direction)
deriving DecidableEq, Repr

/-- A statement of `Get_RXTX_Data`, for the GPU with index `i`. -/
def Statement.run (i : Nat) (v : Vars) : Statement → Exec Vars
  | .read d => do
      let x ← index .getRXTXData (v.tmp d) i
      let gpu ← index .getRXTXData v.gpus i
      return v.setGPU i (throughput gpu d x)
  | .reset d => do
      let _ ← index .getRXTXData (v.tmp d) i
      return v.setTmp d i 0

/-- The statement after this one in the same turn. -/
def Statement.next : Statement → Option Statement
  | .read .rx => some (.read .tx)
  | .read .tx => some (.reset .rx)
  | .reset .rx => some (.reset .tx)
  | .reset .tx => none

/-! ## A cycle -/

/-- What NVML and the host say in one turn of the loop of `Gpumetric`. -/
structure Reading where
  /-- `DeviceGetHandleByIndex` succeeds. -/
  found : Bool := true
  attempts : Nat → Attempt
  dname : String := ""
  memoryTotal : UInt64 := 0
  memoryFree : UInt64 := 0
  memoryUsed : UInt64 := 0
  powerLimit : UInt32 := 0
  powerUsage : UInt32 := 0
  temperature : UInt32 := 0
  util : UInt32 := 0
  fanspeed : UInt32 := 0

/-- The record of a GPU after a turn. -/
def Reading.gpu (reading : Reading) (uuid : String) (i : Nat) (out : Collected) : GrpcGPU :=
  { out.gpu with
    grpcGPUused := reading.memoryUsed.toInt64
    grpcGPUfree := reading.memoryFree.toInt64
    grpcGPUUUID := uuid
    grpcGPUName := reading.dname
    grpcGPUIndex := Int64.ofNat i
    grpcGPUtotal := reading.memoryTotal.toInt64
    grpcGPUtemp := { out.gpu.grpcGPUtemp with current := reading.temperature.toUInt64.toInt64 }
    grpcGPUpower := reading.powerUsage.toUInt64.toInt64
    grpcGPUmpscount := Int64.ofNat out.podnum
    grpcGPUtotalpower := reading.powerLimit.toUInt64.toInt64
    grpcGPUutil := reading.util.toUInt64.toInt64
    fanSpeed := reading.fanspeed.toUInt64.toInt64 }

/-- `podmap` at the top of a turn, which adds an entry while there are too few. -/
def grow (podmap : List GPUMAP) (count : Nat) : List GPUMAP :=
  if podmap.length < count then podmap ++ [({} : GPUMAP)] else podmap

/-- One turn of the loop of `Gpumetric`, for the GPU with index `i`, from its first
statement to its last. -/
def gpumetricTurn (nvml : Nvml Device) (reading : Reading) (data : Collection) (count i : Nat)
    (v : Vars) : Exec Vars := do
  let podmap := grow v.podmap count
  if !reading.found then .error ⟨.logFatal, .gpumetric⟩
  else
    let uuid := uuidAt nvml i
    let entry ← index .gpumetric podmap i
    let gpu ← index .gpumetric v.gpus i
    let out ← gpumpsmetric uuid reading.attempts data entry.podMetric { gpu with gpuPod := [] }
    let entry : GPUMAP := { gpuuuid := uuid, podMetric := out.podmap }
    return { v.setGPU i (reading.gpu uuid i out) with podmap := podmap.set i entry }

/-- The end of `Gpumetric`: the pods of all GPUs are counted. -/
def countTotal (v : Vars) : Vars :=
  { v with collector := { v.collector with node := { v.collector.node with
      totalPodnum := (v.gpus.map fun gpu => Int64.ofNat gpu.gpuPod.length).sum } } }

/-! ## The process -/

/-- Where the main loop is. -/
inductive MainLoop where
  /-- `MemberMetricCollector`, or the sleep. -/
  | collecting
  /-- In `Get_RXTX_Data`, in front of a statement. -/
  | flushing (i : Nat) (statement : Statement)
deriving DecidableEq

/-- Where `Get_GPUPci` is. -/
inductive Sampler where
  | ready
  | returned
  /-- In front of an addition. -/
  | sampling (count i : Nat) (d : Direction)
deriving DecidableEq

/-- Where a call of `Gpumetric` is. -/
inductive Cycle where
  | ready (data : Collection)
  | running (data : Collection) (count i : Nat)
  | returned
deriving DecidableEq

/-- The process.  The last three fields are its history: which GPUs a cycle has
recorded, and the sums of what was added to each counter and flushed from it. -/
structure State where
  vars : Vars
  main : MainLoop := .collecting
  sampler : Sampler := .ready
  cycles : List Cycle := []
  fault : Option (Fault Frame) := none
  recorded : Nat → Bool := fun _ => false
  sampled : Direction → Nat → Int := fun _ _ => 0
  flushed : Direction → Nat → Int := fun _ _ => 0

/-- What can happen next, with the answers that it gets. -/
inductive Event (Device : Type) where
  /-- The main loop has collected, starts a cycle and goes on to the flush. -/
  | collect (readings : Readings) (data : Collection)
  /-- The next statement of the flush. -/
  | flush
  /-- `Get_GPUPci` asks for the number of GPUs. -/
  | launchSampler (init : Bool) (nvml : Nvml Device)
  /-- The next addition of `Get_GPUPci`. -/
  | sample (info : UInt32)
  /-- Cycle `k` asks for the number of GPUs. -/
  | launch (k : Nat) (init : Bool) (nvml : Nvml Device)
  /-- The next turn of cycle `k`. -/
  | turn (k : Nat) (nvml : Nvml Device) (reading : Reading)
  /-- Cycle `k` leaves its loop and returns. -/
  | finish (k : Nat)
  | getInitData
  | getNode
  | getGPU (uuid : String)

/-- The sampler after its query. -/
def launchedSampler (init : Bool) (nvml : Nvml Device) : Sampler :=
  if init then .sampling (deviceCount init nvml) 0 .rx else .returned

/-- A cycle after its query. -/
def launched (data : Collection) (init : Bool) (nvml : Nvml Device) : Cycle :=
  if init then .running data (deviceCount init nvml) 0 else .returned

/-- A goroutine goes on from what its code leaves, or the process ends. -/
def State.exec (s : State) (run : Exec Vars) (next : Vars → State) : State :=
  match run with
  | .ok v => next v
  | .error fault => { s with fault := some fault }

/-- Where the flush goes on: at the first statement for GPU `i`, if there is one. -/
def flushFrom (v : Vars) (i : Nat) : MainLoop :=
  if i < v.gpus.length then .flushing i (.read .rx) else .collecting

/-- Where the flush goes on after a statement for GPU `i`. -/
def flushAfter (v : Vars) (i : Nat) (statement : Statement) : MainLoop :=
  match statement.next with
  | some following => .flushing i following
  | none => flushFrom v (i + 1)

/-- A sum for one counter grows. -/
def grown (sums : Direction → Nat → Int) (d : Direction) (i : Nat) (x : Int) :
    Direction → Nat → Int :=
  fun d' j => if d' = d ∧ j = i then sums d' j + x else sums d' j

/-- What a statement flushes, into the sums of what was flushed. -/
def flushedBy (s : State) (i : Nat) : Statement → Direction → Nat → Int
  | .read d => grown s.flushed d i ((s.vars.tmp d).getD i 0).toInt
  | .reset _ => s.flushed

/-- Where the sampler goes on after an addition. -/
def sampleAfter (count i : Nat) : Direction → Sampler
  | .rx => .sampling count i .tx
  | .tx => .sampling count (if i + 1 < count then i + 1 else 0) .rx

/-- The main loop has collected. -/
def State.collect (s : State) (readings : Readings) (data : Collection) : State :=
  { s with
    vars := { s.vars with collector := s.vars.collector.update readings }
    cycles := s.cycles ++ [.ready data]
    main := flushFrom s.vars 0 }

/-- The flush executes a statement. -/
def State.flush (s : State) (i : Nat) (statement : Statement) : State :=
  s.exec (statement.run i s.vars) fun v =>
    { s with vars := v, main := flushAfter v i statement, flushed := flushedBy s i statement }

/-- The sampler adds to a counter. -/
def State.sample (s : State) (count i : Nat) (d : Direction) (info : UInt32) : State :=
  s.exec (Main.sample d i info s.vars) fun v =>
    { s with
      vars := v
      sampler := sampleAfter count i d
      sampled := grown s.sampled d i info.toNat }

/-- A cycle takes a turn. -/
def State.turn (s : State) (k : Nat) (data : Collection) (count i : Nat) (nvml : Nvml Device)
    (reading : Reading) : State :=
  s.exec (gpumetricTurn nvml reading data count i s.vars) fun v =>
    { s with
      vars := v
      cycles := s.cycles.set k (.running data count (i + 1))
      recorded := Function.update s.recorded i true }

/-- A call of a scheduler changes the collector. -/
def State.serve (s : State) (run : Exec Collector) : State :=
  s.exec (run >>= fun collector => .ok { s.vars with collector := collector }) fun v =>
    { s with vars := v }

/-- One of the goroutines goes on.  There is no step after a fault. -/
def step (s : State) (event : Event Device) : Option State :=
  if s.fault ≠ none then none
  else match event with
  | .collect readings data =>
      match s.main with
      | .collecting => some (s.collect readings data)
      | .flushing _ _ => none
  | .flush =>
      match s.main with
      | .collecting => none
      | .flushing i statement => some (s.flush i statement)
  | .launchSampler init nvml =>
      match s.sampler with
      | .ready => some { s with sampler := launchedSampler init nvml }
      | _ => none
  | .sample info =>
      match s.sampler with
      | .sampling count i d => if i < count then some (s.sample count i d info) else none
      | _ => none
  | .launch k init nvml =>
      match s.cycles[k]? with
      | some (.ready data) => some { s with cycles := s.cycles.set k (launched data init nvml) }
      | _ => none
  | .turn k nvml reading =>
      match s.cycles[k]? with
      | some (.running data count i) =>
          if i < count then some (s.turn k data count i nvml reading) else none
      | _ => none
  | .finish k =>
      match s.cycles[k]? with
      | some (.running _ count i) =>
          if i < count then none
          else some { s with vars := countTotal s.vars, cycles := s.cycles.set k .returned }
      | _ => none
  | .getInitData => some (s.serve (do
      let (_, collector) ← Server.getInitData s.vars.collector
      return collector))
  | .getNode => some (s.serve (return (Server.getNode s.vars.collector).2))
  | .getGPU uuid => some (s.serve (do
      let (_, collector) ← Server.getGPU s.vars.collector uuid
      return collector))

/-! ## What the code leaves -/

/-- What `main` leaves in front of its loop. -/
theorem startup_eq_ok {init : Bool} {nvml : Nvml Device} {profile : Device → Profile}
    {name : String} {v : Vars} (h : startup init nvml profile name = .ok v) :
    ∃ node, getNvlinkInfo nvml {} = .ok node ∧ v =
      { collector := {
          node := { node with
            nodeGPU := (List.range (deviceCount init nvml)).map fun i =>
              (profile (nvml.deviceGetHandleByIndex i)).gpu
            grpcNodeUUID := (List.range (deviceCount init nvml)).map (uuidAt nvml)
            grpcNodeCount := Int64.ofNat (deviceCount init nvml)
            grpcNodeName := name }
          gpuuuid := (List.range (deviceCount init nvml)).map (uuidAt nvml) }
        tmprx := List.replicate (deviceCount init nvml) 0
        tmptx := List.replicate (deviceCount init nvml) 0 } := by
  rcases bind_eq_ok.mp h with ⟨node, hnode, hv⟩
  cases hv
  exact ⟨node, hnode, rfl⟩

/-- An addition returns when it is in range. -/
theorem sample_eq_ok {v w : Vars} {d : Direction} {i : Nat} {info : UInt32} :
    sample d i info v = .ok w ↔ i < (v.tmp d).length ∧
      w = v.setTmp d i ((v.tmp d).getD i 0 + info.toUInt64.toInt64) := by
  unfold sample
  rw [bind_eq_ok]
  constructor
  · intro h
    rcases h with ⟨x, hx, hw⟩
    cases hw
    have hget := index_eq_ok.mp hx
    exact ⟨(List.getElem?_eq_some_iff.mp hget).1, by rw [List.getD_eq_getElem?_getD, hget]; rfl⟩
  · intro h
    rcases h with ⟨hlt, rfl⟩
    exact ⟨_, index_of_getElem? (List.getElem?_eq_getElem hlt), by
      rw [List.getD_eq_getElem?_getD, List.getElem?_eq_getElem hlt]; rfl⟩

/-- What a statement of the flush leaves. -/
def Statement.after (i : Nat) (v : Vars) : Statement → Vars
  | .read d => v.setGPU i (throughput (v.gpus.getD i {}) d ((v.tmp d).getD i 0))
  | .reset d => v.setTmp d i 0

/-- The table that a statement addresses first. -/
def Statement.direction : Statement → Direction
  | .read d => d
  | .reset d => d

/-- A statement that returned was in range of its counter. -/
theorem Statement.run_eq_ok {v w : Vars} {i : Nat} {statement : Statement}
    (h : statement.run i v = .ok w) :
    i < (v.tmp statement.direction).length ∧ w = statement.after i v := by
  cases statement with
  | read d =>
      rcases bind_eq_ok.mp h with ⟨x, hx, h⟩
      rcases bind_eq_ok.mp h with ⟨gpu, hgpu, h⟩
      cases h
      have hget := index_eq_ok.mp hx
      refine ⟨(List.getElem?_eq_some_iff.mp hget).1, ?_⟩
      rw [Statement.after, List.getD_eq_getElem?_getD, List.getD_eq_getElem?_getD, hget,
        index_eq_ok.mp hgpu]
      rfl
  | reset d =>
      rcases bind_eq_ok.mp h with ⟨x, hx, h⟩
      cases h
      exact ⟨(List.getElem?_eq_some_iff.mp (index_eq_ok.mp hx)).1, rfl⟩

/-- A statement in range of all tables returns. -/
theorem Statement.exists_run {v : Vars} {i : Nat} (hgpus : i < v.gpus.length)
    (htmp : ∀ d, i < (v.tmp d).length) (statement : Statement) :
    ∃ w, statement.run i v = .ok w := by
  cases statement with
  | read d =>
      rcases exists_index_of_lt Frame.getRXTXData (htmp d) with ⟨x, hx⟩
      rcases exists_index_of_lt Frame.getRXTXData hgpus with ⟨gpu, hgpu⟩
      exact ⟨_, by rw [Statement.run, hx, ok_bind, hgpu, ok_bind, pure_eq_ok]⟩
  | reset d =>
      rcases exists_index_of_lt Frame.getRXTXData (htmp d) with ⟨x, hx⟩
      exact ⟨_, by rw [Statement.run, hx, ok_bind, pure_eq_ok]⟩

/-- A turn of a cycle that returned has called `Gpumpsmetric`. -/
theorem gpumetricTurn_eq_ok {nvml : Nvml Device} {reading : Reading} {data : Collection}
    {count i : Nat} {v w : Vars} (h : gpumetricTurn nvml reading data count i v = .ok w) :
    ∃ entry gpu out, (grow v.podmap count)[i]? = some entry ∧ v.gpus[i]? = some gpu ∧
      gpumpsmetric (uuidAt nvml i) reading.attempts data entry.podMetric
        { gpu with gpuPod := [] } = .ok out ∧
      w = { v.setGPU i (reading.gpu (uuidAt nvml i) i out) with
        podmap := (grow v.podmap count).set i
          { gpuuuid := uuidAt nvml i, podMetric := out.podmap } } := by
  unfold gpumetricTurn at h
  cases hfound : reading.found with
  | false =>
      rw [hfound] at h
      cases h
  | true =>
      rw [hfound] at h
      rcases bind_eq_ok.mp h with ⟨entry, hentry, h⟩
      rcases bind_eq_ok.mp h with ⟨gpu, hgpu, h⟩
      rcases bind_eq_ok.mp h with ⟨out, hout, h⟩
      cases h
      exact ⟨entry, gpu, out, index_eq_ok.mp hentry, index_eq_ok.mp hgpu, hout, rfl⟩

/-! ## What a call of a scheduler does -/

/-- The record of a GPU without its number of processes. -/
def uncounted (gpu : GrpcGPU) : GrpcGPU := { gpu with grpcGPUmpscount := 0 }

/-- The node without its GPUs. -/
def withoutGPUs (node : GrpcNode) : GrpcNode := { node with nodeGPU := [] }

/-- What a call leaves of the collector: all but the last storage sent and the
numbers of processes. -/
structure Served (c c' : Collector) : Prop where
  gpuuuid : c'.gpuuuid = c.gpuuuid
  node : withoutGPUs c'.node = withoutGPUs c.node
  gpus : c'.node.nodeGPU.map uncounted = c.node.nodeGPU.map uncounted

theorem Served.length_gpus {c c' : Collector} (h : Served c c') :
    c'.node.nodeGPU.length = c.node.nodeGPU.length := by
  have hlength := congrArg List.length h.gpus
  rwa [List.length_map, List.length_map] at hlength

/-- The functions that answer a call. -/
def IsCall (frame : Frame) : Prop := frame = .getInitData ∨ frame = .getGPU

/-- A call raises faults of its own only, and leaves the collector as it may. -/
structure Serves (c : Collector) (run : Exec Collector) : Prop where
  faults : FaultsIn IsCall run
  leaves : ∀ c', run = .ok c' → Served c c'

/-- A record that differs in its number of processes takes the place of the other. -/
theorem map_uncounted_set {gpus : List GrpcGPU} {i : Nat} {gpu gpu' : GrpcGPU}
    (hget : gpus[i]? = some gpu) (hsame : uncounted gpu' = uncounted gpu) :
    (gpus.set i gpu').map uncounted = gpus.map uncounted := by
  rw [List.map_set, hsame]
  apply List.ext_getElem?
  intro j
  by_cases hj : i = j
  · subst hj
    have hlt : i < (gpus.map uncounted).length := by
      rw [List.length_map]
      exact (List.getElem?_eq_some_iff.mp hget).1
    rw [List.getElem?_set_self hlt, List.getElem?_map, hget, Option.map_some]
  · rw [List.getElem?_set_ne hj]

/-- A negative number of processes is set to zero. -/
theorem uncounted_ite (gpu : GrpcGPU) :
    uncounted (if gpu.grpcGPUmpscount < 0 then { gpu with grpcGPUmpscount := 0 } else gpu) =
      uncounted gpu := by
  by_cases hneg : gpu.grpcGPUmpscount < 0
  · rw [if_pos hneg]
    rfl
  · rw [if_neg hneg]

theorem gpuTurn_uncounted {acc acc' : List GrpcGPU × List GPUMessage} {i : Nat}
    (h : gpuTurn acc i = .ok acc') : acc'.1.map uncounted = acc.1.map uncounted := by
  unfold gpuTurn at h
  rcases bind_eq_ok.mp h with ⟨gpu, hgpu, h⟩
  cases h
  exact map_uncounted_set (index_eq_ok.mp hgpu) (uncounted_ite gpu)

theorem serves_getInitData (c : Collector) :
    Serves c (Server.getInitData c >>= fun answer => .ok answer.2) where
  faults := by
    have hframe : IsCall .getInitData := Or.inl rfl
    have hmax : ∀ acc i, FaultsIn IsCall (maxTurn c.node.nodeGPU acc i) := by
      intro acc i
      exact faultsIn_bind (faultsIn_index hframe _ _) fun _ => faultsIn_ok _
    have hturn : ∀ acc i, FaultsIn IsCall (gpuTurn acc i) := by
      intro acc i
      exact faultsIn_bind (faultsIn_index hframe _ _) fun _ => faultsIn_ok _
    refine faultsIn_bind ?_ fun _ => faultsIn_ok _
    refine faultsIn_bind (faultsIn_foldlM (fun acc i _ => hmax acc i) _) fun _ => ?_
    exact faultsIn_bind (faultsIn_foldlM (fun acc i _ => hturn acc i) _) fun _ => faultsIn_ok _
  leaves := by
    intro c' h
    rcases bind_eq_ok.mp h with ⟨answer, hanswer, h⟩
    cases h
    unfold Server.getInitData at hanswer
    rcases bind_eq_ok.mp hanswer with ⟨maxgpumemory, -, hanswer⟩
    rcases bind_eq_ok.mp hanswer with ⟨⟨gpus, grpcgpudata⟩, hloop, hanswer⟩
    cases hanswer
    refine ⟨rfl, rfl, ?_⟩
    exact (foldlM_inv (fun acc => acc.1.map uncounted = c.node.nodeGPU.map uncounted)
      (fun _ => True)
      (fun acc acc' i _ hacc hturn => ⟨(gpuTurn_uncounted hturn).trans hacc, trivial⟩)
      rfl hloop).1

theorem serves_getNode (c : Collector) : Serves c (.ok (Server.getNode c).2) where
  faults := faultsIn_ok _
  leaves := by
    intro c' h
    cases h
    exact ⟨rfl, rfl, rfl⟩

theorem serves_getGPU (c : Collector) (uuid : String) :
    Serves c (Server.getGPU c uuid >>= fun answer => .ok answer.2) := by
  unfold Server.getGPU
  cases c.gpuuuid.findIdx? (· = uuid) with
  | none => exact ⟨faultsIn_ok _, fun c' h => by cases h; exact ⟨rfl, rfl, rfl⟩⟩
  | some i =>
      have hframe : IsCall .getGPU := Or.inr rfl
      constructor
      · refine faultsIn_bind ?_ fun _ => faultsIn_ok _
        exact faultsIn_bind (faultsIn_index hframe _ _) fun _ => faultsIn_ok _
      · intro c' h
        rcases bind_eq_ok.mp h with ⟨answer, hanswer, h⟩
        cases h
        rcases bind_eq_ok.mp hanswer with ⟨gpu, hgpu, hanswer⟩
        cases hanswer
        exact ⟨rfl, rfl, map_uncounted_set (index_eq_ok.mp hgpu) (uncounted_ite gpu)⟩

/-! ## What a step does -/

/-- The code returns and the goroutine goes on, or it faults. -/
theorem exec_cases (s : State) (run : Exec Vars) (next : Vars → State) :
    (∃ v, run = .ok v ∧ s.exec run next = next v) ∨
      ∃ fault, run = .error fault ∧ s.exec run next = { s with fault := some fault } := by
  cases run with
  | ok v => exact Or.inl ⟨v, rfl, rfl⟩
  | error fault => exact Or.inr ⟨fault, rfl, rfl⟩

/-- A scheduler calls. -/
def Event.isCall : Event Device → Bool
  | .getInitData => true
  | .getNode => true
  | .getGPU _ => true
  | _ => false

/-- The steps, each from the position of its goroutine. -/
inductive Steps (s : State) : Event Device → State → Prop where
  | collect (readings : Readings) (data : Collection) (hmain : s.main = .collecting) :
      Steps s (.collect readings data) (s.collect readings data)
  | flush (i : Nat) (statement : Statement) (hmain : s.main = .flushing i statement) :
      Steps s .flush (s.flush i statement)
  | launchSampler (init : Bool) (nvml : Nvml Device) (hsampler : s.sampler = .ready) :
      Steps s (.launchSampler init nvml) { s with sampler := launchedSampler init nvml }
  | sample (info : UInt32) (count i : Nat) (d : Direction)
      (hsampler : s.sampler = .sampling count i d) (hlt : i < count) :
      Steps s (.sample info) (s.sample count i d info)
  | launch (k : Nat) (init : Bool) (nvml : Nvml Device) (data : Collection)
      (hcycle : s.cycles[k]? = some (.ready data)) :
      Steps s (.launch k init nvml) { s with cycles := s.cycles.set k (launched data init nvml) }
  | turn (k : Nat) (nvml : Nvml Device) (reading : Reading) (data : Collection) (count i : Nat)
      (hcycle : s.cycles[k]? = some (.running data count i)) (hlt : i < count) :
      Steps s (.turn k nvml reading) (s.turn k data count i nvml reading)
  | finish (k : Nat) (data : Collection) (count i : Nat)
      (hcycle : s.cycles[k]? = some (.running data count i)) :
      Steps s (.finish k) { s with
        vars := countTotal s.vars, cycles := s.cycles.set k .returned }
  | serve (event : Event Device) (run : Exec Collector) (hcall : event.isCall = true)
      (hserves : Serves s.vars.collector run) : Steps s event (s.serve run)

/-- A step is one of these, and the process has not ended before it. -/
theorem steps_of_step {s t : State} {event : Event Device} (h : step s event = some t) :
    s.fault = none ∧ Steps s event t := by
  unfold step at h
  by_cases hfault : s.fault = none
  · refine ⟨hfault, ?_⟩
    rw [if_neg (not_not.mpr hfault)] at h
    cases event with
    | collect readings data =>
        cases hmain : s.main with
        | collecting =>
            simp only [hmain] at h
            cases h
            exact .collect readings data hmain
        | flushing i statement =>
            simp only [hmain] at h
            cases h
    | flush =>
        cases hmain : s.main with
        | collecting =>
            simp only [hmain] at h
            cases h
        | flushing i statement =>
            simp only [hmain] at h
            cases h
            exact .flush i statement hmain
    | launchSampler init nvml =>
        cases hsampler : s.sampler with
        | ready =>
            simp only [hsampler] at h
            cases h
            exact .launchSampler init nvml hsampler
        | returned =>
            simp only [hsampler] at h
            cases h
        | sampling count i d =>
            simp only [hsampler] at h
            cases h
    | sample info =>
        cases hsampler : s.sampler with
        | sampling count i d =>
            simp only [hsampler] at h
            by_cases hlt : i < count
            · rw [if_pos hlt] at h
              cases h
              exact .sample info count i d hsampler hlt
            · rw [if_neg hlt] at h
              cases h
        | ready =>
            simp only [hsampler] at h
            cases h
        | returned =>
            simp only [hsampler] at h
            cases h
    | launch k init nvml =>
        simp only at h
        split at h
        · rename_i data hcycle
          cases h
          exact .launch k init nvml data hcycle
        · cases h
    | turn k nvml reading =>
        simp only at h
        split at h
        · rename_i data count i hcycle
          by_cases hlt : i < count
          · rw [if_pos hlt] at h
            cases h
            exact .turn k nvml reading data count i hcycle hlt
          · rw [if_neg hlt] at h
            cases h
        · cases h
    | finish k =>
        simp only at h
        split at h
        · rename_i data count i hcycle
          by_cases hlt : i < count
          · rw [if_pos hlt] at h
            cases h
          · rw [if_neg hlt] at h
            cases h
            exact .finish k data count i hcycle
        · cases h
    | getInitData =>
        cases h
        exact .serve _ _ rfl (serves_getInitData s.vars.collector)
    | getNode =>
        cases h
        exact .serve _ _ rfl (serves_getNode s.vars.collector)
    | getGPU uuid =>
        cases h
        exact .serve _ _ rfl (serves_getGPU s.vars.collector uuid)
  · rw [if_pos hfault] at h
    cases h

/-! ## A node with one GPU -/

/-- A driver with one GPU, which has no links. -/
def oneGPU : Nvml Unit where
  deviceGetCount := some 1
  deviceGetHandleByIndex _ := ()
  deviceGetHandleByPciBusId _ := none
  getIndex _ := 0
  getUUID _ := "GPU-0"
  getPciInfo _ := { busId := Vector.replicate 32 0 }
  getNvLinkRemotePciInfo _ _ := none
  getNvLinkRemoteDeviceType _ _ := 0

/-- A reading of a GPU without processes. -/
def idleReading : Reading where
  attempts _ := { host := { readFile := fun _ => none
                            processName := fun _ => ""
                            container := fun _ => "" }
                  processes := []
                  replies := [some []] }

end MetricCollector.Main
