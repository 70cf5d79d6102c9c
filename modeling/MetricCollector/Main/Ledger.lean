import MetricCollector.GoLib.Simulation
import MetricCollector.Gpumpsmetric.Books
import MetricCollector.Main.Accounts
import Mathlib.Data.List.GetD

/-!
# The books of a GPU within the process

The pod map and the two counters of a GPU are kept by the turns of all cycles that
go through it.  In the process these turns come between those for other GPUs, of
other cycles, and between whatever the other goroutines do.  The cycles overlap, but
each turn is over before the next one on its GPU begins.

* `State.books` is what the process has on record for a GPU, and `turnsOn` is what a
  step adds to the list of the turns that went through it.
* `books_turn` is one such turn, which is a cycle of the books, and `Untouched` is what
  every other step leaves of them.
* `process_refines_books` follows a run of the process by a run of cycles, and
  `process_keeps_books` is what the books say between the turns.
-/

namespace MetricCollector.Main

open GoLib Schedule Grpcs Storage Gpumpsmetric Nvlink Server

/-! ## What is on record -/

/-- The containers on record for the GPU with index `i`. -/
def recordsAt (podmap : List GPUMAP) (i : Nat) : List PodGPU :=
  (podmap[i]?.map GPUMAP.podMetric).getD []

/-- The books on a GPU. -/
def Vars.books (v : Vars) (i : Nat) : Books where
  podmap := recordsAt v.podmap i
  assigned := (v.gpus.getD i {}).gpuAssingment
  returned := (v.gpus.getD i {}).gpuReturn

/-- The containers that `GPUPod` of a GPU lists. -/
def Vars.containersOn (v : Vars) (i : Nat) : List String :=
  (v.gpus.getD i {}).gpuPod.map PodMetric.containerID

/-- The containers that a turn for the GPU has left in `GPUPod`, if the step is one. -/
def turnsOn {Device : Type} (i : Nat) (s : State) (event : Event Device) (t : State) :
    List (List String) :=
  match event with
  | .turn k _ _ =>
      match s.cycles[k]? with
      | some (.running _ _ j) => if j = i ∧ t.fault = none then [t.vars.containersOn i] else []
      | _ => []
  | _ => []

/-- In a turn of a cycle the GPU has this UUID. -/
def HasUUID {Device : Type} (i : Nat) (uuid : String) (event : Event Device) : Prop :=
  match event with
  | .turn _ nvml _ => uuidAt nvml i = uuid
  | _ => True

/-- A new entry of the pod map has nothing on record. -/
theorem recordsAt_grow (podmap : List GPUMAP) (count i : Nat) :
    recordsAt (grow podmap count) i = recordsAt podmap i := by
  unfold grow
  split_ifs with hshort
  · unfold recordsAt
    by_cases hlt : i < podmap.length
    · rw [List.getElem?_append_left hlt]
    · rw [List.getElem?_append_right (by omega),
        List.getElem?_eq_none (by omega : podmap.length ≤ i)]
      cases i - podmap.length with
      | zero => rfl
      | succ n => rfl
  · rfl

/-! ## What a step does to the books -/

section Steps

variable {v w : Vars} {i : Nat}

/-- The same records and counters are the same books. -/
theorem books_eq (hpodmap : recordsAt w.podmap i = recordsAt v.podmap i)
    (hassigned : (w.gpus.getD i {}).gpuAssingment = (v.gpus.getD i {}).gpuAssingment)
    (hreturned : (w.gpus.getD i {}).gpuReturn = (v.gpus.getD i {}).gpuReturn) :
    w.books i = v.books i := by
  rw [Vars.books, hpodmap, hassigned, hreturned]
  rfl

/-- The books and the pods of a GPU are as before. -/
structure Untouched (i : Nat) (v w : Vars) : Prop where
  books : w.books i = v.books i
  containers : w.containersOn i = v.containersOn i

theorem untouched_refl (i : Nat) (v : Vars) : Untouched i v v := ⟨rfl, rfl⟩

/-- The record of another GPU. -/
theorem getD_setGPU_of_ne (v : Vars) {i j : Nat} (h : j ≠ i) (gpu : GrpcGPU) :
    (v.setGPU j gpu).gpus.getD i {} = v.gpus.getD i {} := by
  show (v.gpus.set j gpu).getD i {} = _
  rw [List.getD_eq_getElem?_getD, List.getD_eq_getElem?_getD, List.getElem?_set_ne h]

/-- The record of the GPU itself. -/
theorem getD_setGPU_self (v : Vars) {i : Nat} (h : i < v.gpus.length) (gpu : GrpcGPU) :
    (v.setGPU i gpu).gpus.getD i {} = gpu := by
  show (v.gpus.set i gpu).getD i {} = _
  rw [List.getD_eq_getElem?_getD, List.getElem?_set_self h]
  rfl

theorem untouched_setTmp (i : Nat) (v : Vars) (d : Direction) (j : Nat) (x : Int64) :
    Untouched i v (v.setTmp d j x) := by
  cases d <;> exact ⟨rfl, rfl⟩

/-- The flush writes neither the pods nor the counters of a record. -/
theorem untouched_throughput (i : Nat) {j : Nat} {gpu : GrpcGPU} (hgpu : v.gpus[j]? = some gpu)
    (d : Direction) (x : Int64) : Untouched i v (v.setGPU j (throughput gpu d x)) := by
  by_cases hj : j = i
  · subst hj
    have hlt := (List.getElem?_eq_some_iff.mp hgpu).1
    have hold : v.gpus.getD j {} = gpu := by
      rw [List.getD_eq_getElem?_getD, hgpu]
      rfl
    have hnew := getD_setGPU_self v hlt (throughput gpu d x)
    refine ⟨books_eq rfl ?_ ?_, ?_⟩
    · rw [hnew, hold]
      cases d <;> rfl
    · rw [hnew, hold]
      cases d <;> rfl
    · rw [Vars.containersOn, Vars.containersOn, hnew, hold]
      cases d <;> rfl
  · have hsame := getD_setGPU_of_ne v hj (throughput gpu d x)
    exact ⟨books_eq rfl (by rw [hsame]) (by rw [hsame]), by
      rw [Vars.containersOn, Vars.containersOn, hsame]⟩

/-- A call of a scheduler writes neither of them. -/
theorem untouched_serve (i : Nat) {c : Collector} (h : Served v.collector c) :
    Untouched i v { v with collector := c } := by
  have hsame : uncounted (c.node.nodeGPU.getD i {}) = uncounted (v.gpus.getD i {}) := by
    calc uncounted (c.node.nodeGPU.getD i {})
        = (c.node.nodeGPU.map uncounted).getD i (uncounted {}) := (List.getD_map _ _ uncounted).symm
      _ = (v.gpus.map uncounted).getD i (uncounted {}) :=
          congrArg (·.getD i (uncounted {})) h.gpus
      _ = uncounted (v.gpus.getD i {}) := List.getD_map _ _ uncounted
  have hfield : ∀ {α : Type} (field : GrpcGPU → α), field (uncounted (c.node.nodeGPU.getD i {})) =
      field (uncounted (v.gpus.getD i {})) := fun field => congrArg field hsame
  exact ⟨books_eq rfl (hfield GrpcGPU.gpuAssingment) (hfield GrpcGPU.gpuReturn),
    congrArg (List.map PodMetric.containerID) (hfield GrpcGPU.gpuPod)⟩

/-- A turn for another GPU. -/
theorem untouched_turn {Device : Type} {nvml : Nvml Device} {reading : Reading}
    {data : Collection} {count j : Nat} (h : gpumetricTurn nvml reading data count j v = .ok w)
    (hj : j ≠ i) : Untouched i v w := by
  obtain ⟨entry, gpu, out, -, -, -, rfl⟩ := gpumetricTurn_eq_ok h
  have hsame := getD_setGPU_of_ne v hj (reading.gpu (uuidAt nvml j) j out)
  refine ⟨books_eq ?_ (congrArg GrpcGPU.gpuAssingment hsame) (congrArg GrpcGPU.gpuReturn hsame),
    congrArg (fun gpu => gpu.gpuPod.map PodMetric.containerID) hsame⟩
  show recordsAt ((grow v.podmap count).set j _) i = _
  rw [← recordsAt_grow v.podmap count i]
  unfold recordsAt
  rw [List.getElem?_set_ne hj]

/-- A turn for the GPU is a cycle of its books. -/
theorem books_turn {Device : Type} {nvml : Nvml Device} {reading : Reading} {data : Collection}
    {count : Nat} (h : gpumetricTurn nvml reading data count i v = .ok w) :
    ∃ c : Gpumpsmetric.Cycle, cycle (uuidAt nvml i) (v.books i) c = some (w.books i) ∧
      c.containers = w.containersOn i := by
  obtain ⟨entry, gpu, out, hentry, hgpu, hout, rfl⟩ := gpumetricTurn_eq_ok h
  have hlt := (List.getElem?_eq_some_iff.mp hgpu).1
  have hnew := getD_setGPU_self v hlt (reading.gpu (uuidAt nvml i) i out)
  have hold : v.gpus.getD i {} = gpu := by
    rw [List.getD_eq_getElem?_getD, hgpu]
    rfl
  have hrecords : (v.books i).podmap = entry.podMetric := by
    show recordsAt v.podmap i = _
    rw [← recordsAt_grow v.podmap count i, recordsAt, hentry]
    rfl
  refine ⟨⟨reading.attempts, data, { gpu with gpuPod := [] },
    out.gpu.gpuPod.map PodMetric.containerID⟩, ?_, ?_⟩
  · have hcall : gpumpsmetric (uuidAt nvml i) reading.attempts data (v.books i).podmap
        { ({ gpu with gpuPod := [] } : GrpcGPU) with
          gpuAssingment := (v.books i).assigned, gpuReturn := (v.books i).returned } = .ok out := by
      rw [hrecords, Vars.books, hold]
      exact hout
    unfold cycle
    rw [hcall]
    dsimp only
    rw [if_pos rfl]
    refine congrArg some ?_
    have hlong : i < (grow v.podmap count).length := (List.getElem?_eq_some_iff.mp hentry).1
    have hpodmap : recordsAt ((grow v.podmap count).set i
        { gpuuuid := uuidAt nvml i, podMetric := out.podmap }) i = out.podmap := by
      unfold recordsAt
      rw [List.getElem?_set_self hlong]
      rfl
    unfold Vars.books
    rw [hpodmap]
    show _ = Books.mk _ ((v.setGPU i _).gpus.getD i {}).gpuAssingment
      ((v.setGPU i _).gpus.getD i {}).gpuReturn
    rw [hnew]
    rfl
  · show _ = ((v.setGPU i _).gpus.getD i {}).gpuPod.map PodMetric.containerID
    rw [hnew]
    rfl

end Steps

/-! ## Runs -/

/-- The books and the pods of a GPU as a step finds them, and the cycle of the books
that it takes, if it takes one. -/
inductive LedgerStep (i : Nat) (uuid : String) (v w : Vars) : List (List String) → Prop where
  | other (h : Untouched i v w) : LedgerStep i uuid v w []
  | turn (c : Gpumpsmetric.Cycle) (h : cycle uuid (v.books i) c = some (w.books i))
      (hcontainers : c.containers = w.containersOn i) :
      LedgerStep i uuid v w [w.containersOn i]

/-- Code that touches no books, or faults. -/
theorem ledgerStep_exec {i : Nat} {uuid : String} {s : State} {run : Exec Vars}
    {next : Vars → State}
    (h : ∀ w, run = .ok w → Untouched i s.vars w ∧ (next w).vars = w) :
    LedgerStep i uuid s.vars (s.exec run next).vars [] := by
  rcases exec_cases s run next with ⟨w, hrun, hnext⟩ | ⟨fault, hrun, hnext⟩
  · obtain ⟨huntouched, hvars⟩ := h w hrun
    rw [hnext, hvars]
    exact .other huntouched
  · rw [hnext]
    exact .other (untouched_refl i s.vars)

/-- Each step is a cycle of the books, or is not seen in them. -/
theorem ledgerStep_of_step {Device : Type} {i : Nat} {uuid : String} {s t : State}
    {event : Event Device} (huuid : HasUUID i uuid event) (h : step s event = some t) :
    LedgerStep i uuid s.vars t.vars (turnsOn i s event t) := by
  obtain ⟨hnone, hsteps⟩ := steps_of_step h
  cases hsteps with
  | collect readings data hmain => exact .other ⟨rfl, rfl⟩
  | flush j statement hmain =>
      refine ledgerStep_exec fun w hrun => ⟨?_, rfl⟩
      cases statement with
      | read d =>
          rcases bind_eq_ok.mp hrun with ⟨x, -, hrun⟩
          rcases bind_eq_ok.mp hrun with ⟨gpu, hgpu, hrun⟩
          cases hrun
          exact untouched_throughput i (index_eq_ok.mp hgpu) d x
      | reset d =>
          rcases bind_eq_ok.mp hrun with ⟨x, -, hrun⟩
          cases hrun
          exact untouched_setTmp i s.vars d j 0
  | launchSampler init nvml hsampler => exact .other (untouched_refl i s.vars)
  | sample info count j d hsampler hlt =>
      refine ledgerStep_exec fun w hrun => ⟨?_, rfl⟩
      obtain ⟨-, rfl⟩ := sample_eq_ok.mp hrun
      exact untouched_setTmp i s.vars d j _
  | launch k init nvml data hcycle => exact .other (untouched_refl i s.vars)
  | turn k nvml reading data count j hcycle hlt =>
      unfold turnsOn
      simp only [hcycle]
      unfold State.turn
      rcases exec_cases s (gpumetricTurn nvml reading data count j s.vars) fun v =>
        { s with
          vars := v
          cycles := s.cycles.set k (.running data count (j + 1))
          recorded := Function.update s.recorded j true } with ⟨w, hrun, hw⟩ | ⟨fault, hrun, hw⟩
      · rw [hw]
        by_cases hj : j = i
        · subst hj
          obtain ⟨c, hcycle', hcontainers⟩ := books_turn hrun
          rw [show uuidAt nvml j = uuid from huuid] at hcycle'
          rw [if_pos ⟨rfl, hnone⟩]
          exact .turn c hcycle' hcontainers
        · rw [if_neg fun hboth => hj hboth.1]
          exact .other (untouched_turn hrun hj)
      · rw [hw, if_neg fun hboth => by cases hboth.2]
        exact .other (untouched_refl i s.vars)
  | finish k data count j hcycle => exact .other ⟨rfl, rfl⟩
  | serve event run hcall hserves =>
      have hnoturn : turnsOn i s event (s.serve run) = [] := by
        cases event with
        | turn k nvml reading => cases hcall
        | _ => rfl
      rw [hnoturn]
      refine ledgerStep_exec fun w hrun => ⟨?_, rfl⟩
      rcases bind_eq_ok.mp hrun with ⟨collector, hcollector, hw⟩
      cases hw
      exact untouched_serve i (hserves.leaves collector hcollector)

section Runs

variable {Device : Type} {init : Bool} {nvml : Nvml Device} {profile : Device → Profile}
  {name : String} {v : Vars}

/-- The books at the start are empty. -/
theorem books_start (hstart : startup init nvml profile name = .ok v) (i : Nat) :
    v.books i = {} ∧ v.containersOn i = [] := by
  obtain ⟨node, -, rfl⟩ := startup_eq_ok hstart
  have hgpu : ∀ j, (((List.range (deviceCount init nvml)).map fun i =>
      (profile (nvml.deviceGetHandleByIndex i)).gpu).getD j {}).gpuAssingment = 0 ∧
      (((List.range (deviceCount init nvml)).map fun i =>
        (profile (nvml.deviceGetHandleByIndex i)).gpu).getD j {}).gpuReturn = 0 ∧
      (((List.range (deviceCount init nvml)).map fun i =>
        (profile (nvml.deviceGetHandleByIndex i)).gpu).getD j {}).gpuPod = [] := by
    intro j
    rw [List.getD_eq_getElem?_getD, List.getElem?_map]
    cases (List.range (deviceCount init nvml))[j]? with
    | none => exact ⟨rfl, rfl, rfl⟩
    | some k => exact ⟨rfl, rfl, rfl⟩
  obtain ⟨hassigned, hreturned, hpods⟩ := hgpu i
  refine ⟨?_, congrArg (List.map PodMetric.containerID) hpods⟩
  show Books.mk _ _ _ = Books.mk [] 0 0
  congr 1

/-- The process has these books on a GPU, they are in order, and the containers in
`GPUPod` are on record. -/
structure HasBooks (i : Nat) (s : State) (books : Books) : Prop where
  same : books = s.vars.books i
  inOrder : InOrder books
  recorded : ∀ id ∈ s.vars.containersOn i, id ∈ idsOf books.podmap

/-- A step of the process is answered by a cycle of the books, or by none. -/
theorem HasBooks.follow {i : Nat} {uuid : String} {s s' : State} {books : Books}
    {event : Event Device} (h : HasBooks i s books) (huuid : HasUUID i uuid event)
    (hstep : step s event = some s') :
    ∃ cs books', run (cycle uuid) books cs = some books' ∧
      cs.map Gpumpsmetric.Cycle.containers = turnsOn i s event s' ∧ HasBooks i s' books' := by
  obtain ⟨rfl, hinOrder, hrecorded⟩ := h
  have hledger := ledgerStep_of_step huuid hstep
  generalize turnsOn i s event s' = turns at hledger
  cases hledger with
  | other huntouched =>
      refine ⟨[], _, rfl, rfl, huntouched.books.symm, hinOrder, ?_⟩
      rw [huntouched.containers]
      exact hrecorded
  | turn c hcycle hcontainers =>
      obtain ⟨hinOrder', hids, -⟩ := cycle_eq_some hinOrder hcycle
      refine ⟨[c], s'.vars.books i, ?_, ?_, rfl, hinOrder', ?_⟩
      · rw [run_cons, hcycle]
        rfl
      · rw [List.map_singleton, hcontainers]
      · intro id hid
        rw [hids, mem_enroll, hcontainers]
        exact Or.inr hid

/-- A run of the process is answered by a run of cycles. -/
theorem follow_of_run (hstart : startup init nvml profile name = .ok v) (i : Nat)
    (uuid : String) {events : List (Event Device)}
    (huuid : ∀ event ∈ events, HasUUID i uuid event) {s : State}
    (hrun : run step { vars := v } events = some s) :
    ∃ cs books, run (cycle uuid) {} cs = some books ∧
      cs.map Gpumpsmetric.Cycle.containers = trace step (turnsOn i) { vars := v } events ∧
      HasBooks i s books := by
  obtain ⟨hbooks, hcontainers⟩ := books_start hstart i
  have hempty : HasBooks i { vars := v } {} := by
    refine ⟨hbooks.symm, inOrder_start 0, ?_⟩
    show ∀ id ∈ v.containersOn i, _
    rw [hcontainers]
    intro id hid
    cases hid
  refine run_follow (HasBooks i) (turnsOn i) Gpumpsmetric.Cycle.containers ?_ hempty hrun
  intro event hevent s s' books hhas hstep
  exact hhas.follow (huuid event hevent) hstep

/-- What a run of the process does to the books of a GPU, whose turns come one after
another, is a run of cycles whose containers are those of the turns. -/
theorem process_refines_books (hstart : startup init nvml profile name = .ok v) (i : Nat)
    (uuid : String) {events : List (Event Device)}
    (huuid : ∀ event ∈ events, HasUUID i uuid event) {s : State}
    (hrun : run step { vars := v } events = some s) :
    ∃ cs : List Gpumpsmetric.Cycle, run (cycle uuid) {} cs = some (s.vars.books i) ∧
      cs.map Gpumpsmetric.Cycle.containers = trace step (turnsOn i) { vars := v } events := by
  obtain ⟨cs, books, hcs, htrace, hhas⟩ := follow_of_run hstart i uuid huuid hrun
  exact ⟨cs, hhas.same ▸ hcs, htrace⟩

/-- Between the turns the books of a GPU list each container once that a turn for the
GPU has left in `GPUPod`, in the order in which they came.  `GPUAssingment` is their
number, nothing has been returned, and the containers in `GPUPod` are on record. -/
theorem process_keeps_books (hstart : startup init nvml profile name = .ok v) (i : Nat)
    (uuid : String) {events : List (Event Device)}
    (huuid : ∀ event ∈ events, HasUUID i uuid event) {s : State}
    (hrun : run step { vars := v } events = some s) :
    idsOf (s.vars.books i).podmap =
        enroll [] (trace step (turnsOn i) { vars := v } events).flatten ∧
      (idsOf (s.vars.books i).podmap).Nodup ∧
      (s.vars.books i).assigned = Int64.ofNat (s.vars.books i).podmap.length ∧
      (s.vars.books i).returned = 0 ∧
      ∀ id ∈ s.vars.containersOn i, id ∈ idsOf (s.vars.books i).podmap := by
  obtain ⟨cs, books, hcs, htrace, rfl, hinOrder, hrecorded⟩ :=
    follow_of_run hstart i uuid huuid hrun
  obtain ⟨-, hids, hreturned⟩ := run_eq_some (inOrder_start 0) hcs
  refine ⟨?_, hinOrder.nodup, hinOrder.assigned_eq, hreturned, hrecorded⟩
  rw [hids, List.flatMap_def, htrace]
  rfl

end Runs

/-- Two cycles on one GPU, the second of which takes its turn first. -/
def overlappingCycles : List (Event Unit) :=
  [.collect {} ⟨[{}]⟩, .flush, .flush, .flush, .flush, .collect {} ⟨[{}]⟩, .launch 0 true oneGPU,
    .launch 1 true oneGPU, .turn 1 oneGPU busyReading, .turn 0 oneGPU idleReading]

theorem hasUUID_overlappingCycles : ∀ event ∈ overlappingCycles, HasUUID 0 "GPU-0" event := by
  intro event hevent
  simp only [overlappingCycles, List.mem_cons, List.not_mem_nil, or_false] at hevent
  rcases hevent with rfl | rfl | rfl | rfl | rfl | rfl | rfl | rfl | rfl | rfl
  all_goals trivial

theorem process_refines_books_of_overlapping_cycles :
    ∃ v s, startup true oneGPU (fun _ => {}) "node" = .ok v ∧
      run step { vars := v } overlappingCycles = some s ∧
      ∃ cs : List Gpumpsmetric.Cycle, run (cycle "GPU-0") {} cs = some (s.vars.books 0) ∧
        cs.map Gpumpsmetric.Cycle.containers =
          trace step (turnsOn 0) { vars := v } overlappingCycles :=
  ⟨_, _, rfl, rfl, @process_refines_books Unit true oneGPU (fun _ => {}) "node" _ rfl 0 "GPU-0" _
    hasUUID_overlappingCycles _ rfl⟩

/-- The pod of the later cycle stays on record through the turn of the earlier one. -/
theorem process_keeps_books_of_overlapping_cycles :
    ∃ v s, startup true oneGPU (fun _ => {}) "node" = .ok v ∧
      run step { vars := v } overlappingCycles = some s ∧
      trace step (turnsOn 0) { vars := v } overlappingCycles = [["abc"], []] ∧
      idsOf (s.vars.books 0).podmap =
        enroll [] (trace step (turnsOn 0) { vars := v } overlappingCycles).flatten :=
  ⟨_, _, rfl, rfl, rfl, (@process_keeps_books Unit true oneGPU (fun _ => {}) "node" _ rfl 0
    "GPU-0" _ hasUUID_overlappingCycles _ rfl).1⟩

end MetricCollector.Main
