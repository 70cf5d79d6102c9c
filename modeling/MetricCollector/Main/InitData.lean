import MetricCollector.Main
import MetricCollector.Server.InitData

/-!
# The first message over a run

The node part of the message goes back to the start of the process, and the UUID
of each GPU to the first cycle that has been through it.

* `links_known` is what the links of a node can name.
* `Identified` is the invariant: what `main` has listed is still there, and the
  records that a cycle has been through have the UUID on that list.
* `initData_consistent_iff` says in which states the message is consistent.
-/

namespace MetricCollector.Main

open GoLib Schedule Grpcs Storage Gpumpsmetric Nvlink Server

/-! ## The links -/

section Links

variable {Device : Type} {nvml : Nvml Device} {uuids : List String}

/-- A record of `GetNvlinkInfo` that names known GPUs only. -/
def KnownStatus (uuids : List String) (status : NvlinkStatus) : Prop :=
  status.uuid ∈ uuids ∧ ∀ uuid ∈ status.p2pUUID, uuid ∈ uuids

theorem knownStatus_addLane
    (hfound : ∀ busId device, nvml.deviceGetHandleByPciBusId busId = some device →
      nvml.getUUID device ∈ uuids)
    (device : Device) (j : Nat) (remote : BusID) {status : NvlinkStatus}
    (h : KnownStatus uuids status) : KnownStatus uuids (addLane nvml device j remote status) := by
  unfold addLane
  cases status.lanes remote with
  | some val => exact h
  | none =>
      cases hdevice : nvml.deviceGetHandleByPciBusId remote with
      | none => exact h
      | some p2pDevice =>
          dsimp only
          split_ifs
          · refine ⟨h.1, ?_⟩
            intro uuid huuid
            rcases List.mem_append.mp huuid with huuid | huuid
            · exact h.2 uuid huuid
            · rw [List.mem_singleton.mp huuid]
              exact hfound remote p2pDevice hdevice
          · exact h

theorem knownStatus_scanLanes
    (hfound : ∀ busId device, nvml.deviceGetHandleByPciBusId busId = some device →
      nvml.getUUID device ∈ uuids)
    (device : Device) (js : List Nat) {status : NvlinkStatus} (h : KnownStatus uuids status) :
    KnownStatus uuids (scanLanes nvml device js status) := by
  induction js generalizing status with
  | nil => exact h
  | cons j js ih =>
      unfold scanLanes
      cases nvml.getNvLinkRemotePciInfo device j with
      | none => exact h
      | some info => exact ih (knownStatus_addLane hfound device j _ h)

/-- Both ends of a link are known. -/
def KnownLink (uuids : List String) (link : NvLink) : Prop :=
  link.gpu1UUID ∈ uuids ∧ link.gpu2UUID ∈ uuids

theorem knownLink_linksOf {status : NvlinkStatus} (h : KnownStatus uuids status)
    {links : List NvLink} (hlinks : linksOf status = .ok links) :
    ∀ link ∈ links, KnownLink uuids link := by
  intro link hlink
  obtain ⟨j, -, hj⟩ := exists_of_mem_mapM hlinks hlink
  rcases bind_eq_ok.mp hj with ⟨gpu2UUID, hgpu2, hj⟩
  rcases bind_eq_ok.mp hj with ⟨p2pBusID, -, hj⟩
  cases hj
  exact ⟨h.1, h.2 _ (List.mem_of_getElem? (index_eq_ok.mp hgpu2))⟩

/-- The links of a node name the GPUs that NVML counts or finds. -/
theorem links_known {count : Nat} (hcount : nvml.deviceGetCount = some count)
    (hown : ∀ i < count, uuidAt nvml i ∈ uuids)
    (hfound : ∀ busId device, nvml.deviceGetHandleByPciBusId busId = some device →
      nvml.getUUID device ∈ uuids)
    {node : GrpcNode} (h : getNvlinkInfo nvml {} = .ok node) :
    ∀ link ∈ node.nvLinkInfo, KnownLink uuids link := by
  rw [getNvlinkInfo, hcount] at h
  have hturn : ∀ node node' : GrpcNode, ∀ i ∈ List.range count,
      (∀ link ∈ node.nvLinkInfo, KnownLink uuids link) → listLinks nvml node i = .ok node' →
      (∀ link ∈ node'.nvLinkInfo, KnownLink uuids link) ∧ True := by
    intro node node' i hi hnode hrun
    refine ⟨?_, trivial⟩
    rcases bind_eq_ok.mp hrun with ⟨status, hstatus, hrun⟩
    rcases bind_eq_ok.mp hrun with ⟨links, hlinks, hrun⟩
    rcases bind_eq_ok.mp hstatus with ⟨busID, -, hstatus⟩
    cases hrun
    cases hstatus
    have hstart : KnownStatus uuids
        { uuid := nvml.getUUID (nvml.deviceGetHandleByIndex i), busID := busID } :=
      ⟨hown i (List.mem_range.mp hi), fun uuid huuid => by cases huuid⟩
    have hknown := knownStatus_scanLanes hfound (nvml.deviceGetHandleByIndex i)
      (List.range maxLanes) hstart
    intro link hlink
    rcases List.mem_append.mp hlink with hlink | hlink
    · exact hnode link hlink
    · exact knownLink_linksOf hknown hlinks link hlink
  exact (foldlM_inv _ _ hturn (fun link hlink => by cases hlink) h).1

end Links

/-! ## The invariant -/

/-- What `main` has listed, and a record for each UUID. -/
structure Fixed (uuids : List String) (links : List NvLink) (c : Collector) : Prop where
  gpuuuid : c.gpuuuid = uuids
  nodeUUID : c.node.grpcNodeUUID = uuids
  count : c.node.grpcNodeCount = Int64.ofNat uuids.length
  links : c.node.nvLinkInfo = links
  length : c.node.nodeGPU.length = uuids.length

/-- A record has the UUID that was listed for it from the first cycle that has
been through it on, and none before. -/
def Named (uuids : List String) (recorded : Nat → Bool) (gpus : List GrpcGPU) : Prop :=
  ∀ i gpu, gpus[i]? = some gpu →
    gpu.grpcGPUUUID = if recorded i then uuids.getD i "" else ""

structure Identified (uuids : List String) (links : List NvLink) (s : State) : Prop where
  fixed : Fixed uuids links s.vars.collector
  named : Named uuids s.recorded s.vars.gpus

/-- In a turn of a cycle the GPUs have the UUIDs that `main` listed. -/
def Steady {Device : Type} (uuids : List String) (event : Event Device) : Prop :=
  match event with
  | .turn _ nvml _ => ∀ i < uuids.length, uuidAt nvml i = uuids.getD i ""
  | _ => True

section Invariant

variable {uuids : List String} {links : List NvLink} {s t : State} {v : Vars}

/-- Another collector with the same lists and as many records. -/
theorem Fixed.same {c c' : Collector} (h : Fixed uuids links c) (hgpuuuid : c'.gpuuuid = c.gpuuuid)
    (hnodeUUID : c'.node.grpcNodeUUID = c.node.grpcNodeUUID)
    (hcount : c'.node.grpcNodeCount = c.node.grpcNodeCount)
    (hlinks : c'.node.nvLinkInfo = c.node.nvLinkInfo)
    (hlength : c'.node.nodeGPU.length = c.node.nodeGPU.length) : Fixed uuids links c' where
  gpuuuid := hgpuuuid.trans h.gpuuuid
  nodeUUID := hnodeUUID.trans h.nodeUUID
  count := hcount.trans h.count
  links := hlinks.trans h.links
  length := hlength.trans h.length

theorem Fixed.setGPU (h : Fixed uuids links v.collector) (i : Nat) (gpu : GrpcGPU) :
    Fixed uuids links (v.setGPU i gpu).collector :=
  h.same rfl rfl rfl rfl List.length_set

theorem Fixed.setTmp (h : Fixed uuids links v.collector) (d : Direction) (i : Nat) (x : Int64) :
    Fixed uuids links (v.setTmp d i x).collector := by
  cases d <;> exact h

theorem Fixed.served {c c' : Collector} (h : Fixed uuids links c) (hserved : Served c c') :
    Fixed uuids links c' := by
  have hfield : ∀ {α : Type} (field : GrpcNode → α),
      field (withoutGPUs c'.node) = field (withoutGPUs c.node) :=
    fun field => congrArg field hserved.node
  exact h.same hserved.gpuuuid (hfield GrpcNode.grpcNodeUUID) (hfield GrpcNode.grpcNodeCount)
    (hfield GrpcNode.nvLinkInfo) hserved.length_gpus

theorem Named.set {recorded : Nat → Bool} {gpus : List GrpcGPU} (h : Named uuids recorded gpus)
    (i : Nat) {gpu' : GrpcGPU} (hgpu' : ∀ gpu, gpus[i]? = some gpu →
      gpu'.grpcGPUUUID = if recorded i then uuids.getD i "" else "") :
    Named uuids recorded (gpus.set i gpu') := by
  intro j gpu hget
  by_cases hj : i = j
  · subst hj
    rw [List.getElem?_set_self'] at hget
    obtain ⟨old, hold, rfl⟩ := Option.map_eq_some_iff.mp hget
    exact hgpu' old hold
  · rw [List.getElem?_set_ne hj] at hget
    exact h j gpu hget

theorem Named.served {recorded : Nat → Bool} {c c' : Collector}
    (h : Named uuids recorded c.node.nodeGPU) (hserved : Served c c') :
    Named uuids recorded c'.node.nodeGPU := by
  intro i gpu' hget
  have hsame := congrArg (·[i]?) hserved.gpus
  simp only [List.getElem?_map, hget, Option.map_some] at hsame
  obtain ⟨gpu, hgpu, huncounted⟩ := Option.map_eq_some_iff.mp hsame.symm
  rw [← h i gpu hgpu]
  exact (congrArg GrpcGPU.grpcGPUUUID huncounted).symm

/-- The throughput is not the UUID. -/
theorem throughput_uuid (gpu : GrpcGPU) (d : Direction) (x : Int64) :
    (throughput gpu d x).grpcGPUUUID = gpu.grpcGPUUUID := by
  cases d <;> rfl

theorem Identified.exec (h : Identified uuids links s) {run : Exec Vars} {next : Vars → State}
    (hok : ∀ v, run = .ok v → Identified uuids links (next v)) :
    Identified uuids links (s.exec run next) := by
  rcases exec_cases s run next with ⟨v, hrun, hnext⟩ | ⟨fault, hrun, hnext⟩
  · rw [hnext]
    exact hok v hrun
  · rw [hnext]
    exact ⟨h.fixed, h.named⟩

theorem Identified.flush (h : Identified uuids links s) (i : Nat) (statement : Statement) :
    Identified uuids links (s.flush i statement) := by
  apply h.exec
  intro v hrun
  obtain ⟨-, rfl⟩ := statement.run_eq_ok hrun
  cases statement with
  | read d =>
      refine ⟨h.fixed.setGPU i _, h.named.set i ?_⟩
      intro gpu hget
      rw [throughput_uuid, List.getD_eq_getElem?_getD, hget]
      exact h.named i gpu hget
  | reset d =>
      refine ⟨h.fixed.setTmp d i 0, ?_⟩
      cases d <;> exact h.named

theorem Identified.sample (h : Identified uuids links s) (count i : Nat) (d : Direction)
    (info : UInt32) : Identified uuids links (s.sample count i d info) := by
  apply h.exec
  intro v hrun
  obtain ⟨-, rfl⟩ := sample_eq_ok.mp hrun
  refine ⟨h.fixed.setTmp d i _, ?_⟩
  cases d <;> exact h.named

/-- A turn writes the UUID of its GPU. -/
theorem Identified.turn {Device : Type} (h : Identified uuids links s) {k count i : Nat}
    {data : Collection} {nvml : Nvml Device} {reading : Reading}
    (hsteady : Steady uuids (.turn k nvml reading)) :
    Identified uuids links (s.turn k data count i nvml reading) := by
  apply h.exec
  intro v hrun
  obtain ⟨entry, gpu, out, -, hget, -, rfl⟩ := gpumetricTurn_eq_ok hrun
  have hlt : i < uuids.length := by
    rw [← h.fixed.length]
    exact (List.getElem?_eq_some_iff.mp hget).1
  refine ⟨h.fixed.setGPU i (reading.gpu (uuidAt nvml i) i out), ?_⟩
  intro j gpu' hget'
  have hset : (s.vars.gpus.set i (reading.gpu (uuidAt nvml i) i out))[j]? = some gpu' := hget'
  by_cases hj : i = j
  · subst hj
    rw [List.getElem?_set_self'] at hset
    obtain ⟨old, -, rfl⟩ := Option.map_eq_some_iff.mp hset
    show uuidAt nvml i = if Function.update s.recorded i true i then _ else _
    rw [Function.update_self, if_pos rfl]
    exact hsteady i hlt
  · rw [List.getElem?_set_ne hj] at hset
    show gpu'.grpcGPUUUID = if Function.update s.recorded i true j then _ else _
    rw [Function.update_of_ne (Ne.symm hj)]
    exact h.named j gpu' hset

theorem Identified.serve (h : Identified uuids links s) {run : Exec Collector}
    (hserves : Serves s.vars.collector run) : Identified uuids links (s.serve run) := by
  apply h.exec
  intro v hrun
  rcases bind_eq_ok.mp hrun with ⟨collector, hcollector, hv⟩
  cases hv
  have hserved := hserves.leaves collector hcollector
  exact ⟨h.fixed.served hserved, h.named.served hserved⟩

theorem Identified.step {Device : Type} {event : Event Device} (h : Identified uuids links s)
    (hstep : step s event = some t) (hsteady : Steady uuids event) :
    Identified uuids links t := by
  obtain ⟨-, hsteps⟩ := steps_of_step hstep
  cases hsteps with
  | collect readings data hmain => exact ⟨h.fixed.same rfl rfl rfl rfl rfl, h.named⟩
  | flush i statement hmain => exact h.flush i statement
  | launchSampler init nvml hsampler => exact ⟨h.fixed, h.named⟩
  | sample info count i d hsampler hlt => exact h.sample count i d info
  | launch k init nvml data hcycle => exact ⟨h.fixed, h.named⟩
  | turn k nvml reading data count i hcycle hlt => exact h.turn hsteady
  | finish k data count i hcycle => exact ⟨h.fixed.same rfl rfl rfl rfl rfl, h.named⟩
  | serve event run hcall hserves => exact h.serve hserves

end Invariant

/-! ## The message -/

/-- What NVML says of the GPUs of a node: their UUIDs have no blanks, a device
that is found by its bus ID is one of them, and without its library NVML counts
no device. -/
structure Sound {Device : Type} (init : Bool) (nvml : Nvml Device) : Prop where
  blankFree : ∀ i < deviceCount init nvml, ' ' ∉ (uuidAt nvml i).toList
  found : ∀ busId device, nvml.deviceGetHandleByPciBusId busId = some device →
    ∃ i < deviceCount init nvml, nvml.getUUID device = uuidAt nvml i
  down : init = false → nvml.deviceGetCount = none

section Message

variable {Device : Type} {init : Bool} {nvml : Nvml Device} {profile : Device → Profile}
  {name : String} {v : Vars}

/-- The UUIDs that `main` lists. -/
def listed (init : Bool) (nvml : Nvml Device) : List String :=
  (List.range (deviceCount init nvml)).map (uuidAt nvml)

theorem mem_listed {i : Nat} (h : i < deviceCount init nvml) : uuidAt nvml i ∈ listed init nvml :=
  List.mem_map.mpr ⟨i, List.mem_range.mpr h, rfl⟩

theorem length_listed : (listed init nvml).length = deviceCount init nvml := by
  rw [listed, List.length_map, List.length_range]

theorem getD_listed {i : Nat} (h : i < deviceCount init nvml) :
    (listed init nvml).getD i "" = uuidAt nvml i := by
  rw [listed, List.getD_eq_getElem?_getD, List.getElem?_map, List.getElem?_range h]
  rfl

/-- The links that `main` lists are between GPUs that it lists. -/
theorem links_listed (hsound : Sound init nvml)
    (hstart : startup init nvml profile name = .ok v) :
    ∀ link ∈ v.collector.node.nvLinkInfo, KnownLink (listed init nvml) link := by
  obtain ⟨node, hnode, rfl⟩ := startup_eq_ok hstart
  show ∀ link ∈ node.nvLinkInfo, KnownLink (listed init nvml) link
  have hfound : ∀ busId device, nvml.deviceGetHandleByPciBusId busId = some device →
      nvml.getUUID device ∈ listed init nvml := by
    intro busId device hdevice
    obtain ⟨i, hi, hi'⟩ := hsound.found busId device hdevice
    rw [hi']
    exact mem_listed hi
  cases hcount : nvml.deviceGetCount with
  | none =>
      rw [getNvlinkInfo, hcount] at hnode
      cases hnode
      exact fun link hlink => by cases hlink
  | some count =>
      have hinit : init = true := by
        by_contra hdown
        rw [hsound.down (by simpa using hdown)] at hcount
        cases hcount
      have hn : deviceCount init nvml = count := by
        rw [deviceCount, if_pos hinit, hcount]
        rfl
      exact links_known hcount (fun i hi => mem_listed (hi.trans_eq hn.symm)) hfound hnode

theorem identified_start (hstart : startup init nvml profile name = .ok v) :
    Identified (listed init nvml) v.collector.node.nvLinkInfo { vars := v } := by
  obtain ⟨node, -, rfl⟩ := startup_eq_ok hstart
  refine ⟨⟨rfl, rfl, by rw [length_listed], rfl, by simp [length_listed]⟩, ?_⟩
  intro i gpu hget
  obtain ⟨j, -, rfl⟩ := List.mem_map.mp (List.mem_of_getElem? hget)
  rfl

/-- The records have the listed UUIDs when each GPU has been recorded, or has the
empty UUID that a record starts with. -/
theorem uuids_listed_iff {s : State} {links : List NvLink}
    (h : Identified (listed init nvml) links s) :
    s.vars.collector.node.nodeGPU.map GrpcGPU.grpcGPUUUID = listed init nvml ↔
      ∀ i < deviceCount init nvml, s.recorded i = true ∨ uuidAt nvml i = "" := by
  have hlength : s.vars.collector.node.nodeGPU.length = deviceCount init nvml :=
    h.fixed.length.trans length_listed
  have huuid : ∀ i (hi : i < s.vars.collector.node.nodeGPU.length),
      s.vars.collector.node.nodeGPU[i].grpcGPUUUID =
        if s.recorded i then uuidAt nvml i else "" := by
    intro i hi
    rw [h.named i _ (List.getElem?_eq_getElem hi), getD_listed (hi.trans_eq hlength)]
  constructor
  · intro hsame i hi
    have hlt : i < s.vars.collector.node.nodeGPU.length := hi.trans_eq hlength.symm
    have hget := congrArg (·.getD i "") hsame
    simp only [List.getD_eq_getElem?_getD, List.getElem?_map, List.getElem?_eq_getElem hlt,
      Option.map_some, Option.getD_some, huuid i hlt] at hget
    rw [← List.getD_eq_getElem?_getD, getD_listed hi] at hget
    by_cases hrecorded : s.recorded i = true
    · exact Or.inl hrecorded
    · rw [if_neg hrecorded] at hget
      exact Or.inr hget.symm
  · intro hall
    apply List.ext_getElem
    · rw [List.length_map, hlength, length_listed]
    · intro i hi hi'
      rw [List.length_map] at hi
      have hlisted : (listed init nvml)[i] = uuidAt nvml i := by simp [listed]
      rw [List.getElem_map, huuid i hi, hlisted]
      rcases hall i (hi.trans_eq hlength) with hrecorded | hempty
      · rw [if_pos hrecorded]
      · rw [hempty]
        split_ifs <;> rfl

/-- In every state of a run over the same GPUs, the message is there, and it is
consistent exactly when each GPU has been recorded by a cycle (or has the empty
UUID) and no recorded total is negative. -/
theorem initData_consistent_iff (hsound : Sound init nvml)
    (hstart : startup init nvml profile name = .ok v) {events : List (Event Device)}
    (hsteady : ∀ event ∈ events, Steady (listed init nvml) event) {s : State}
    (hrun : run step { vars := v } events = some s) :
    ∃ message collector, Server.getInitData s.vars.collector = .ok (message, collector) ∧
      (Consistent message ↔
        (∀ i < deviceCount init nvml, s.recorded i = true ∨ uuidAt nvml i = "") ∧
          ∀ gpu ∈ s.vars.gpus, 0 ≤ gpu.grpcGPUtotal) := by
  have hidentified : Identified (listed init nvml) v.collector.node.nvLinkInfo s :=
    run_inv_of_along _ (fun _ _ _ h hstep hsteady => h.step hstep hsteady)
      (identified_start hstart) (along_of_forall hsteady _) hrun
  have hfixed := hidentified.fixed
  have hlisted : Listed s.vars.collector := by
    refine ⟨?_, ?_, ?_, ?_⟩
    · rw [hfixed.count, hfixed.length]
    · rw [hfixed.nodeUUID, hfixed.length]
    · rw [hfixed.nodeUUID]
      intro uuid huuid
      obtain ⟨i, hi, rfl⟩ := List.mem_map.mp huuid
      exact hsound.blankFree i (List.mem_range.mp hi)
    · rw [hfixed.nodeUUID, hfixed.links]
      exact links_listed hsound hstart
  obtain ⟨collector, hmessage⟩ := getInitData_eq (hfixed.gpuuuid ▸ hfixed.length.symm)
  refine ⟨_, collector, hmessage, ?_⟩
  rw [consistent_iff hlisted, hfixed.nodeUUID]
  exact and_congr (uuids_listed_iff hidentified) Iff.rfl

end Message

theorem sound_oneGPU : Sound true oneGPU where
  blankFree _ _ := by
    show ' ' ∉ "GPU-0".toList
    decide
  found _ _ h := by cases h
  down h := by cases h

/-- The message after the first cycle. -/
theorem initData_consistent_after_cycle :
    ∃ v s message collector, startup true oneGPU (fun _ => {}) "node" = .ok v ∧
      run step { vars := v } [.collect {} {}, .launch 0 true oneGPU,
        .turn 0 oneGPU { idleReading with memoryTotal := 100 }] = some s ∧
      Server.getInitData s.vars.collector = .ok (message, collector) ∧ Consistent message := by
  have hsteady : ∀ event ∈ ([.collect {} {}, .launch 0 true oneGPU,
      .turn 0 oneGPU { idleReading with memoryTotal := 100 }] : List (Event Unit)),
      Steady (listed true oneGPU) event := by
    intro event hevent
    rcases List.mem_cons.mp hevent with rfl | hevent
    · trivial
    · rcases List.mem_pair.mp hevent with rfl | rfl
      · trivial
      · intro i hi
        have hone : i < 1 := hi
        obtain rfl : i = 0 := by omega
        rfl
  obtain ⟨message, collector, hmessage, hconsistent⟩ :=
    @initData_consistent_iff Unit true oneGPU (fun _ => {}) "node" _ sound_oneGPU rfl _ hsteady _
      rfl
  refine ⟨_, _, message, collector, rfl, rfl, hmessage, hconsistent.mpr ⟨?_, ?_⟩⟩
  · intro i hi
    have hone : i < 1 := hi
    obtain rfl : i = 0 := by omega
    exact Or.inl rfl
  · intro gpu hgpu
    obtain rfl := List.mem_singleton.mp hgpu
    decide

/-- The message before the first cycle: the list has a UUID and the record none. -/
theorem initData_inconsistent_at_start :
    ∃ v message collector, Sound true oneGPU ∧
      startup true oneGPU (fun _ => {}) "node" = .ok v ∧
      Server.getInitData v.collector = .ok (message, collector) ∧ ¬Consistent message := by
  refine ⟨_, _, _, sound_oneGPU, rfl, rfl, ?_⟩
  intro h
  have huuids : split ' ' "GPU-0" = [""] := h.gpuUuid (by simp)
  exact absurd huuids (by decide)

end MetricCollector.Main
