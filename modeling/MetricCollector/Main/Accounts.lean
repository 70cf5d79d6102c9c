import MetricCollector.Gpumpsmetric.Overlap
import MetricCollector.Main
import MetricCollector.Server.InitData

/-!
# The pods of a GPU and their number

A turn of a cycle writes the pods of its GPU into `GPUPod` and their number into
`GrpcGPUmpscount`, and a call of a scheduler reads that number and corrects it
where it is negative.  A turn ends by writing the number, so what is said here of the
two holds between the turns.

* `length_gpuPod` is what a call of `Gpumpsmetric` leaves: as many entries and
  points as it counted pods, at most 48.
* `Answerable` is the invariant that a run keeps, and `step_call` is all that a
  call does to a collector that has it.
* `counts_sent` is what the schedulers are told of the number of pods.
-/

namespace MetricCollector.Main

open GoLib Schedule Grpcs Storage Gpumpsmetric Nvlink Server

/-! ## A call of `Gpumpsmetric` -/

/-- A call that returned has an entry and a point for each pod that it counted. -/
theorem length_gpuPod {uuid : String} {env : Nat → Attempt} {data : Collection}
    {podmap : List PodGPU} {gpu : GrpcGPU} {out : Collected}
    (h : gpumpsmetric uuid env data podmap { gpu with gpuPod := [] } = .ok out) :
    out.gpu.gpuPod.length = out.podnum ∧ out.points.length = out.podnum ∧ out.podnum ≤ 48 := by
  rw [gpumpsmetric, bind_eq_ok] at h
  rcases h with ⟨⟨runpodlist, mps⟩, -, h⟩
  change collectPods uuid data runpodlist mps podmap _ = .ok out at h
  have hpodnum := podnum_of_collectPods podmap h
  rw [collectPods, bind_eq_ok] at h
  rcases h with ⟨⟨gpumpsmap, podnum⟩, hfill, h⟩
  rcases bind_eq_ok.mp h with ⟨gpuPod, hmap, h⟩
  rcases bind_eq_ok.mp h with ⟨points, hwrite, h⟩
  cases h
  -- the mapping loop appends one entry at most in a turn, and the write loop needs them all
  have hshort : gpuPod.length ≤ podnum :=
    @Overlap.length_first_le ⟨mps, data, gpumpsmap, podnum⟩ podnum gpuPod hmap
  have hlong : podnum ≤ gpuPod.length := (writePods_returns_iff _ _ _).mp ⟨points, hwrite⟩
  have hfits := ((fillPods_returns_iff uuid runpodlist).mp ⟨_, hfill⟩).1
  have hpoints := (mapM_eq_ok hwrite).1
  rw [List.length_range] at hpoints
  exact ⟨le_antisymm hshort hlong, hpoints, hpodnum.trans_le hfits⟩

/-! ## What is counted -/

/-- The number of processes of a record is the number of its pods, which fit into
the table of `Gpumpsmetric`. -/
structure Counted (gpu : GrpcGPU) : Prop where
  mpscount : gpu.grpcGPUmpscount = Int64.ofNat gpu.gpuPod.length
  fits : gpu.gpuPod.length ≤ 48

theorem Counted.toInt_mpscount {gpu : GrpcGPU} (h : Counted gpu) :
    gpu.grpcGPUmpscount.toInt = gpu.gpuPod.length := by
  have hfits := h.fits
  rw [h.mpscount, Int64.toInt_ofNat_of_lt (by omega)]

/-- The number is not negative, so no call corrects it. -/
theorem clamped_of_counted {gpu : GrpcGPU} (h : Counted gpu) : clamped gpu = gpu := by
  refine if_neg ?_
  rw [Int64.lt_iff_toInt_lt, h.toInt_mpscount]
  simp

/-- The schedulers can be answered: there is a record for each UUID, and its pods
are counted. -/
structure Answerable (c : Collector) : Prop where
  length : c.gpuuuid.length = c.node.nodeGPU.length
  counted : ∀ gpu ∈ c.node.nodeGPU, Counted gpu

/-! ## What a call does -/

/-- The variables with another last storage sent. -/
def Vars.withStorage (v : Vars) (prevNodeStorage : Int64) : Vars :=
  { v with collector := { v.collector with prevNodeStorage := prevNodeStorage } }

/-- The process with another last storage sent. -/
def State.withStorage (s : State) (prevNodeStorage : Int64) : State :=
  { s with vars := s.vars.withStorage prevNodeStorage }

section Calls

variable {c : Collector}

/-- Writing back the record at an index changes nothing. -/
theorem set_getElem?_self {gpus : List GrpcGPU} {i : Nat} {gpu : GrpcGPU}
    (h : gpus[i]? = some gpu) : gpus.set i gpu = gpus := by
  obtain ⟨hlt, rfl⟩ := List.getElem?_eq_some_iff.mp h
  exact List.set_getElem_self hlt

/-- `GetInitData` remembers the storage that it sent, and changes nothing else. -/
theorem getInitData_of_answerable (h : Answerable c) :
    getInitData c = .ok (initMessage c,
      { c with prevNodeStorage := c.node.grpcNodeTotalStorage }) := by
  obtain ⟨c', hmessage⟩ := getInitData_eq h.length
  rw [hmessage]
  unfold getInitData at hmessage
  rcases bind_eq_ok.mp hmessage with ⟨maxgpumemory, -, hmessage⟩
  rcases bind_eq_ok.mp hmessage with ⟨⟨gpus, grpcgpudata⟩, hloop, hmessage⟩
  have hgpus : gpus = c.node.nodeGPU := by
    refine (foldlM_inv (fun acc => acc.1 = c.node.nodeGPU) (fun _ => True) ?_ rfl hloop).1
    intro acc acc' i _ hacc hturn
    unfold gpuTurn at hturn
    rcases bind_eq_ok.mp hturn with ⟨gpu, hgpu, hturn⟩
    rw [index_eq_ok, hacc] at hgpu
    have hsame := clamped_of_counted (h.counted gpu (List.mem_of_getElem? hgpu))
    cases hturn
    refine ⟨?_, trivial⟩
    show acc.1.set i (clamped gpu) = c.node.nodeGPU
    rw [hsame, hacc, set_getElem?_self hgpu]
  cases hmessage
  rw [hgpus]

/-- The part of a GPU's message that `GetGPU` sends. -/
def currentPart (message : GPUMessage) : GPUMessage where
  gpuUsed := message.gpuUsed
  gpuFree := message.gpuFree
  gpuTemp := message.gpuTemp
  gpuPower := message.gpuPower
  mpsCount := message.mpsCount
  gpuUtil := message.gpuUtil

/-- `GetGPU` looks the UUID up, and changes nothing. -/
theorem getGPU_of_answerable (h : Answerable c) (uuid : String) :
    getGPU c uuid = .ok (((c.gpuuuid.findIdx? (· = uuid)).bind fun i =>
      c.node.nodeGPU[i]?).map fun gpu => currentPart (gpuMessage gpu), c) := by
  unfold getGPU
  cases hfind : c.gpuuuid.findIdx? (· = uuid) with
  | none => rfl
  | some i =>
      obtain ⟨hlt, -⟩ := List.findIdx?_eq_some_iff_getElem.mp hfind
      rw [h.length] at hlt
      have hget : c.node.nodeGPU[i]? = some c.node.nodeGPU[i] := List.getElem?_eq_getElem hlt
      have hsame := clamped_of_counted (h.counted _ (List.getElem_mem hlt))
      unfold clamped at hsame
      dsimp only
      rw [index_of_getElem? hget, ok_bind, hsame, set_getElem?_self hget, Option.bind_some, hget]
      rfl

end Calls

/-- A call changes the last storage sent and nothing else. -/
theorem step_call {Device : Type} {s t : State} {event : Event Device}
    (hs : Answerable s.vars.collector) (hcall : event.isCall = true)
    (h : step s event = some t) : ∃ prevNodeStorage, t = s.withStorage prevNodeStorage := by
  have hnone := (steps_of_step h).1
  unfold step at h
  rw [if_neg (not_not.mpr hnone)] at h
  cases event with
  | getInitData =>
      simp only [getInitData_of_answerable hs] at h
      cases h
      exact ⟨_, rfl⟩
  | getNode =>
      cases h
      exact ⟨_, rfl⟩
  | getGPU uuid =>
      simp only [getGPU_of_answerable hs] at h
      cases h
      exact ⟨s.vars.collector.prevNodeStorage, rfl⟩
  | _ => cases hcall

/-! ## Runs -/

section Invariant

variable {s t : State} {v : Vars}

/-- Another record in the place of one. -/
theorem Answerable.setGPU (h : Answerable v.collector) (i : Nat) {gpu : GrpcGPU}
    (hgpu : Counted gpu) : Answerable (v.setGPU i gpu).collector where
  length := h.length.trans List.length_set.symm
  counted gpu' hmem := by
    rcases List.mem_or_eq_of_mem_set hmem with hmem | rfl
    · exact h.counted gpu' hmem
    · exact hgpu

theorem Answerable.setTmp (h : Answerable v.collector) (d : Direction) (i : Nat) (x : Int64) :
    Answerable (v.setTmp d i x).collector := by
  cases d <;> exact h

theorem Answerable.exec (h : Answerable s.vars.collector) {run : Exec Vars} {next : Vars → State}
    (hok : ∀ v, run = .ok v → Answerable (next v).vars.collector) :
    Answerable (s.exec run next).vars.collector := by
  rcases exec_cases s run next with ⟨v, hrun, hnext⟩ | ⟨fault, hrun, hnext⟩
  · rw [hnext]
    exact hok v hrun
  · rw [hnext]
    exact h

theorem counted_throughput {gpu : GrpcGPU} (h : Counted gpu) (d : Direction) (x : Int64) :
    Counted (throughput gpu d x) := by
  cases d <;> exact ⟨h.mpscount, h.fits⟩

theorem Answerable.flush (h : Answerable s.vars.collector) (i : Nat) (statement : Statement) :
    Answerable (s.flush i statement).vars.collector := by
  apply h.exec
  intro v hrun
  cases statement with
  | read d =>
      rcases bind_eq_ok.mp hrun with ⟨x, -, hrun⟩
      rcases bind_eq_ok.mp hrun with ⟨gpu, hgpu, hrun⟩
      cases hrun
      exact h.setGPU i (counted_throughput
        (h.counted gpu (List.mem_of_getElem? (index_eq_ok.mp hgpu))) d x)
  | reset d =>
      rcases bind_eq_ok.mp hrun with ⟨x, -, hrun⟩
      cases hrun
      exact h.setTmp d i 0

/-- A turn of a cycle counts the pods of its GPU. -/
theorem counted_turn {reading : Reading} {uuid : String} {i : Nat} {data : Collection}
    {podmap : List PodGPU} {gpu : GrpcGPU} {out : Collected}
    (h : gpumpsmetric uuid reading.attempts data podmap { gpu with gpuPod := [] } = .ok out) :
    Counted (reading.gpu uuid i out) := by
  obtain ⟨hlength, -, hfits⟩ := length_gpuPod h
  refine ⟨?_, hlength.trans_le hfits⟩
  show Int64.ofNat out.podnum = Int64.ofNat out.gpu.gpuPod.length
  rw [hlength]

theorem Answerable.step {Device : Type} {event : Event Device}
    (h : Answerable s.vars.collector) (hstep : step s event = some t) :
    Answerable t.vars.collector := by
  cases hcall : event.isCall with
  | true =>
      obtain ⟨prevNodeStorage, rfl⟩ := step_call h hcall hstep
      exact ⟨h.length, h.counted⟩
  | false =>
      obtain ⟨-, hsteps⟩ := steps_of_step hstep
      cases hsteps with
      | collect readings data hmain => exact ⟨h.length, h.counted⟩
      | flush i statement hmain => exact h.flush i statement
      | launchSampler init nvml hsampler => exact h
      | sample info count i d hsampler hlt =>
          apply h.exec
          intro v hrun
          obtain ⟨-, rfl⟩ := sample_eq_ok.mp hrun
          exact h.setTmp d i _
      | launch k init nvml data hcycle => exact h
      | turn k nvml reading data count i hcycle hlt =>
          apply h.exec
          intro v hrun
          obtain ⟨entry, gpu, out, -, -, hout, rfl⟩ := gpumetricTurn_eq_ok hrun
          exact h.setGPU i (counted_turn hout)
      | finish k data count i hcycle => exact ⟨h.length, h.counted⟩
      | serve event run hcall' hserves =>
          rw [hcall] at hcall'
          cases hcall'

end Invariant

section Runs

variable {Device : Type} {init : Bool} {nvml : Nvml Device} {profile : Device → Profile}
  {name : String} {v : Vars}

theorem answerable_start (h : startup init nvml profile name = .ok v) :
    Answerable v.collector := by
  obtain ⟨node, -, rfl⟩ := startup_eq_ok h
  refine ⟨by simp, ?_⟩
  intro gpu hgpu
  obtain ⟨i, -, rfl⟩ := List.mem_map.mp hgpu
  exact ⟨rfl, by simp [Profile.gpu]⟩

/-- The calls can be answered in every state of a run. -/
theorem answerable_of_run (hstart : startup init nvml profile name = .ok v)
    {events : List (Event Device)} {s : State} (hrun : run step { vars := v } events = some s) :
    Answerable s.vars.collector :=
  run_inv (fun s => Answerable s.vars.collector) (fun _ _ _ h hstep => h.step hstep)
    (answerable_start hstart) hrun

/-- Between the turns of the cycles `GetInitData` and `GetGPU` answer, they change no
record, and each number of processes that they send is the number of pods in `GPUPod`. -/
theorem counts_sent (hstart : startup init nvml profile name = .ok v)
    {events : List (Event Device)} {s : State} (hrun : run step { vars := v } events = some s) :
    (∃ message collector, getInitData s.vars.collector = .ok (message, collector) ∧
      collector.node = s.vars.collector.node ∧
      message.initGPU.map (fun entry => entry.mpsCount.toInt) =
        s.vars.gpus.map fun gpu => (gpu.gpuPod.length : Int)) ∧
      ∀ uuid, ∃ answer, getGPU s.vars.collector uuid = .ok (answer, s.vars.collector) ∧
        ∀ message, answer = some message →
          ∃ gpu ∈ s.vars.gpus, message.mpsCount.toInt = gpu.gpuPod.length := by
  have h := answerable_of_run hstart hrun
  have hcount : ∀ gpu ∈ s.vars.gpus, (gpuMessage gpu).mpsCount.toInt = gpu.gpuPod.length :=
    fun gpu hgpu => (h.counted gpu hgpu).toInt_mpscount
  constructor
  · refine ⟨_, _, getInitData_of_answerable h, rfl, ?_⟩
    show (s.vars.gpus.map fun gpu => gpuMessage (clamped gpu)).map _ = _
    rw [List.map_map]
    apply List.map_congr_left
    intro gpu hgpu
    show (gpuMessage (clamped gpu)).mpsCount.toInt = _
    rw [clamped_of_counted (h.counted gpu hgpu), hcount gpu hgpu]
  · intro uuid
    refine ⟨_, getGPU_of_answerable h uuid, ?_⟩
    intro message hmessage
    obtain ⟨gpu, hgpu, rfl⟩ := Option.map_eq_some_iff.mp hmessage
    obtain ⟨i, -, hget⟩ := Option.bind_eq_some_iff.mp hgpu
    have hmem : gpu ∈ s.vars.gpus := List.mem_of_getElem? hget
    exact ⟨gpu, hmem, hcount gpu hmem⟩

end Runs

/-- A GPU with one process, which runs in a pod. -/
def busyReading : Reading where
  attempts _ := onePodOneProcess

/-- The number that is sent after a cycle with one pod. -/
theorem counts_sent_after_busy_cycle :
    ∃ v s, startup true oneGPU (fun _ => {}) "node" = .ok v ∧
      run step { vars := v } [.collect {} ⟨[{}]⟩, .launch 0 true oneGPU,
        .turn 0 oneGPU busyReading] = some s ∧ s.vars.gpus.map (·.gpuPod.length) = [1] ∧
      ∃ message collector, getInitData s.vars.collector = .ok (message, collector) ∧
        collector.node = s.vars.collector.node ∧
        message.initGPU.map (fun entry => entry.mpsCount.toInt) =
          s.vars.gpus.map fun gpu => (gpu.gpuPod.length : Int) :=
  ⟨_, _, rfl, rfl, rfl, (@counts_sent Unit true oneGPU (fun _ => {}) "node" _ rfl
    [.collect {} ⟨[{}]⟩, .launch 0 true oneGPU, .turn 0 oneGPU busyReading] _ rfl).1⟩

end MetricCollector.Main
