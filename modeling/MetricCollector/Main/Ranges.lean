import MetricCollector.Gpumpsmetric.Faults
import MetricCollector.Main

/-!
# The tables of the GPUs

`main` gives each table an entry for every GPU that it finds.  The sampler and
every cycle ask for the number of GPUs again and go through the tables up to
that number, while the flush goes up to the length of `GPU`.

* `Tables` is the invariant: the lengths of the tables, and how far each
  goroutine can be.
* `Tables.step` is one step of a process whose queries find no more GPUs than
  `main` did.
* `tables_in_range` is every run of such a process.
-/

namespace MetricCollector.Main

open GoLib Schedule Grpcs Storage Gpumpsmetric Nvlink Server

/-! ## The accesses -/

/-- The functions that address the tables. -/
def IsTable (frame : Frame) : Prop :=
  frame = .gpumetric ∨ frame = .getRXTXData ∨ frame = .getGPUPci

/-- The fault of an access behind the end of a table. -/
def BehindTable (fault : Fault Frame) : Prop :=
  fault.kind = .indexOutOfRange ∧ IsTable fault.frame

/-- Neither `Gpumpsmetric` nor a call of a scheduler addresses the tables as the
three functions do. -/
theorem not_isTable {frame : Frame} (h : IsOwn frame ∨ IsCall frame) : ¬IsTable frame := by
  rcases h with (rfl | rfl) | (rfl | rfl)
  · simp [IsTable]
  · simp [IsTable]
  · simp [IsTable]
  · simp [IsTable]

/-- No access has been behind the end of a table. -/
def InRange (s : State) : Prop := ∀ fault, s.fault = some fault → ¬BehindTable fault

/-- The tables are as long as before, and `podmap` is not shorter. -/
structure Keeps (v w : Vars) : Prop where
  gpus : w.gpus.length = v.gpus.length
  tmp : ∀ d, (w.tmp d).length = (v.tmp d).length
  podmap : v.podmap.length ≤ w.podmap.length

theorem keeps_setGPU (v : Vars) (i : Nat) (gpu : GrpcGPU) : Keeps v (v.setGPU i gpu) where
  gpus := List.length_set
  tmp d := by cases d <;> rfl
  podmap := le_rfl

theorem keeps_setTmp (v : Vars) (d : Direction) (i : Nat) (x : Int64) :
    Keeps v (v.setTmp d i x) where
  gpus := by cases d <;> rfl
  tmp d' := by cases d <;> cases d' <;> simp [Vars.setTmp, Vars.tmp]
  podmap := by cases d <;> exact le_rfl

theorem Statement.keeps_after (i : Nat) (v : Vars) (statement : Statement) :
    Keeps v (statement.after i v) := by
  cases statement with
  | read d => exact keeps_setGPU v i _
  | reset d => exact keeps_setTmp v d i 0

/-! ## A turn of a cycle -/

theorem length_le_grow (podmap : List GPUMAP) (count : Nat) :
    podmap.length ≤ (grow podmap count).length := by
  unfold grow
  split_ifs
  · simp
  · exact le_rfl

/-- A turn that has an entry for each GPU before its own has one for its own. -/
theorem lt_length_grow {podmap : List GPUMAP} {count i : Nat} (hi : i ≤ podmap.length)
    (hlt : i < count) : i < (grow podmap count).length := by
  unfold grow
  split_ifs with hshort
  · rw [List.length_append, List.length_singleton]
    omega
  · omega

/-- A turn that returned leaves an entry of `podmap` for its GPU. -/
theorem keeps_gpumetricTurn {Device : Type} {nvml : Nvml Device} {reading : Reading}
    {data : Collection} {count i : Nat} {v w : Vars} (hpodmap : i ≤ v.podmap.length)
    (hlt : i < count) (h : gpumetricTurn nvml reading data count i v = .ok w) :
    Keeps v w ∧ i + 1 ≤ w.podmap.length := by
  obtain ⟨entry, gpu, out, -, -, -, rfl⟩ := gpumetricTurn_eq_ok h
  have hlength : ∀ entry, ((grow v.podmap count).set i entry).length =
      (grow v.podmap count).length := fun _ => List.length_set
  refine ⟨⟨List.length_set, fun d => by cases d <;> rfl, ?_⟩, ?_⟩
  · exact (length_le_grow v.podmap count).trans_eq (hlength _).symm
  · exact (lt_length_grow hpodmap hlt).trans_eq (hlength _).symm

/-- A turn for a GPU that `main` knows is in range of the tables. -/
theorem gpumetricTurn_inRange {Device : Type} {nvml : Nvml Device} {reading : Reading}
    {data : Collection} {count i : Nat} {v : Vars} (hgpus : i < v.gpus.length)
    (hpodmap : i ≤ v.podmap.length) (hlt : i < count) {fault : Fault Frame}
    (h : gpumetricTurn nvml reading data count i v = .error fault) : ¬BehindTable fault := by
  rcases exists_index_of_lt Frame.gpumetric (lt_length_grow hpodmap hlt) with ⟨entry, hentry⟩
  rcases exists_index_of_lt Frame.gpumetric hgpus with ⟨gpu, hgpu⟩
  unfold gpumetricTurn at h
  cases hfound : reading.found with
  | false =>
      rw [hfound] at h
      cases h
      exact fun hbehind => absurd hbehind.1 (by decide)
  | true =>
      rw [hfound] at h
      dsimp only [Bool.not_true, Bool.false_eq_true, if_false] at h
      rw [hentry, ok_bind, hgpu, ok_bind] at h
      have hown : IsOwn fault.frame :=
        faultsIn_bind (gpumpsmetric_faultsIn _ _ _ _ _) (fun _ => faultsIn_ok _) fault h
      exact fun hbehind => not_isTable (Or.inl hown) hbehind.2

/-! ## The invariant -/

/-- A cycle goes up to a number of GPUs that `main` knows, and `podmap` has an
entry for each GPU that it is done with. -/
def Cycle.Fits (n podmap : Nat) : Cycle → Prop
  | .running _ count i => count ≤ n ∧ i ≤ podmap
  | _ => True

/-- The tables of a process whose `main` found `n` GPUs, and how far each of its
goroutines can be. -/
structure Tables (n : Nat) (s : State) : Prop where
  gpus : s.vars.gpus.length = n
  tmp : ∀ d, (s.vars.tmp d).length = n
  main : ∀ i statement, s.main = .flushing i statement → i < n
  sampler : ∀ count i d, s.sampler = .sampling count i d → count ≤ n
  cycles : ∀ cycle ∈ s.cycles, cycle.Fits n s.vars.podmap.length
  inRange : InRange s

theorem Cycle.Fits.mono {n podmap podmap' : Nat} {cycle : Cycle} (h : cycle.Fits n podmap)
    (hle : podmap ≤ podmap') : cycle.Fits n podmap' := by
  cases cycle with
  | running data count i => exact ⟨h.1, h.2.trans hle⟩
  | ready data => trivial
  | returned => trivial

/-- The cycles after one of them has gone on. -/
theorem fits_set {n podmap podmap' : Nat} {cycles : List Cycle}
    (h : ∀ cycle ∈ cycles, cycle.Fits n podmap) (hle : podmap ≤ podmap') (k : Nat)
    {cycle' : Cycle} (hcycle' : cycle'.Fits n podmap') :
    ∀ cycle ∈ cycles.set k cycle', cycle.Fits n podmap' := by
  intro cycle hmem
  rcases List.mem_or_eq_of_mem_set hmem with hmem | rfl
  · exact (h cycle hmem).mono hle
  · exact hcycle'

theorem flushFrom_lt {v : Vars} {i j : Nat} {statement : Statement}
    (h : flushFrom v i = .flushing j statement) : j < v.gpus.length := by
  unfold flushFrom at h
  split_ifs at h with hlt
  cases h
  exact hlt

theorem flushAfter_lt {v : Vars} {i j : Nat} {statement following : Statement}
    (hi : i < v.gpus.length) (h : flushAfter v i statement = .flushing j following) :
    j < v.gpus.length := by
  unfold flushAfter at h
  cases hnext : statement.next with
  | none =>
      rw [hnext] at h
      exact flushFrom_lt h
  | some s =>
      rw [hnext] at h
      cases h
      exact hi

section Invariant

variable {n : Nat} {s t : State}

/-- The process after a fault of another function. -/
theorem Tables.fault (h : Tables n s) {fault : Fault Frame} (hfault : ¬BehindTable fault) :
    Tables n { s with fault := some fault } := by
  refine ⟨h.gpus, h.tmp, h.main, h.sampler, h.cycles, ?_⟩
  intro fault' h'
  cases h'
  exact hfault

theorem Tables.exec (h : Tables n s) {run : Exec Vars} {next : Vars → State}
    (hok : ∀ v, run = .ok v → Tables n (next v))
    (hfault : ∀ fault, run = .error fault → ¬BehindTable fault) : Tables n (s.exec run next) := by
  rcases exec_cases s run next with ⟨v, hrun, hnext⟩ | ⟨fault, hrun, hnext⟩
  · rw [hnext]
    exact hok v hrun
  · rw [hnext]
    exact h.fault (hfault fault hrun)

theorem Tables.collect (h : Tables n s) (readings : Readings)
    (data : Collection) : Tables n (s.collect readings data) where
  gpus := h.gpus
  tmp := h.tmp
  main i statement hmain := by
    rw [← h.gpus]
    exact flushFrom_lt hmain
  sampler := h.sampler
  cycles cycle hmem := by
    rcases List.mem_append.mp hmem with hmem | hmem
    · exact h.cycles cycle hmem
    · rw [List.mem_singleton.mp hmem]
      trivial
  inRange := h.inRange

theorem Tables.flush (h : Tables n s) {i : Nat} {statement : Statement}
    (hmain : s.main = .flushing i statement) : Tables n (s.flush i statement) := by
  have hi := h.main i statement hmain
  have hgpus : i < s.vars.gpus.length := by rwa [h.gpus]
  have hkeeps := statement.keeps_after i s.vars
  obtain ⟨w, hw⟩ := statement.exists_run hgpus (fun d => by rwa [h.tmp d])
  apply h.exec
  · intro v hrun
    obtain ⟨-, rfl⟩ := statement.run_eq_ok hrun
    refine ⟨hkeeps.gpus.trans h.gpus, fun d => (hkeeps.tmp d).trans (h.tmp d), ?_, h.sampler, ?_,
      h.inRange⟩
    · intro j following hnext
      rw [← h.gpus, ← hkeeps.gpus]
      exact flushAfter_lt (by rwa [hkeeps.gpus]) hnext
    · exact fun cycle hmem => (h.cycles cycle hmem).mono hkeeps.podmap
  · intro fault hrun
    rw [hw] at hrun
    cases hrun

theorem Tables.sample (h : Tables n s) {count i : Nat} {d : Direction}
    (hsampler : s.sampler = .sampling count i d) (hlt : i < count) (info : UInt32) :
    Tables n (s.sample count i d info) := by
  have hle := h.sampler count i d hsampler
  have hi : i < (s.vars.tmp d).length := by
    rw [h.tmp d]
    omega
  have hrun : Main.sample d i info s.vars = .ok _ := sample_eq_ok.mpr ⟨hi, rfl⟩
  have hkeeps := keeps_setTmp s.vars d i ((s.vars.tmp d).getD i 0 + info.toUInt64.toInt64)
  apply h.exec
  · intro v hv
    rw [hrun] at hv
    cases hv
    refine ⟨hkeeps.gpus.trans h.gpus, fun d' => (hkeeps.tmp d').trans (h.tmp d'), h.main, ?_,
      fun cycle hmem => (h.cycles cycle hmem).mono hkeeps.podmap, h.inRange⟩
    intro count' i' d' hnext
    cases d with
    | rx =>
        cases hnext
        exact hle
    | tx =>
        cases hnext
        exact hle
  · intro fault hfault
    rw [hrun] at hfault
    cases hfault

theorem Tables.turn {Device : Type} (h : Tables n s) {k count i : Nat} {data : Collection}
    (hcycle : s.cycles[k]? = some (.running data count i)) (hlt : i < count)
    (nvml : Nvml Device) (reading : Reading) : Tables n (s.turn k data count i nvml reading) := by
  obtain ⟨hle, hpodmap⟩ := h.cycles _ (List.mem_of_getElem? hcycle)
  have hgpus : i < s.vars.gpus.length := by
    rw [h.gpus]
    omega
  apply h.exec
  · intro v hrun
    obtain ⟨hkeeps, hentry⟩ := keeps_gpumetricTurn hpodmap hlt hrun
    exact ⟨hkeeps.gpus.trans h.gpus, fun d => (hkeeps.tmp d).trans (h.tmp d), h.main, h.sampler,
      fits_set h.cycles hkeeps.podmap k ⟨hle, hentry⟩, h.inRange⟩
  · intro fault hrun
    exact gpumetricTurn_inRange hgpus hpodmap hlt hrun

theorem Tables.serve (h : Tables n s) {run : Exec Collector}
    (hserves : Serves s.vars.collector run) : Tables n (s.serve run) := by
  apply h.exec
  · intro v hrun
    rcases bind_eq_ok.mp hrun with ⟨collector, hcollector, hv⟩
    cases hv
    have hlength := (hserves.leaves collector hcollector).length_gpus
    exact ⟨hlength.trans h.gpus, h.tmp, h.main, h.sampler, h.cycles, h.inRange⟩
  · intro fault hrun
    have hcall : IsCall fault.frame :=
      faultsIn_bind hserves.faults (fun _ => faultsIn_ok _) fault hrun
    exact fun hbehind => not_isTable (Or.inr hcall) hbehind.2

/-! ## Runs -/

/-- A query of the sampler or of a cycle finds no more GPUs than `main` did. -/
def Contained {Device : Type} (s : State) (event : Event Device) (_ : State) : Prop :=
  match event with
  | .launchSampler init nvml => deviceCount init nvml ≤ s.vars.gpus.length
  | .launch _ init nvml => deviceCount init nvml ≤ s.vars.gpus.length
  | _ => True

theorem Tables.step {Device : Type} {event : Event Device} (h : Tables n s)
    (hstep : step s event = some t) (hcontained : Contained s event t) : Tables n t := by
  obtain ⟨hnone, hsteps⟩ := steps_of_step hstep
  cases hsteps with
  | collect readings data hmain => exact h.collect readings data
  | flush i statement hmain => exact h.flush hmain
  | launchSampler init nvml hsampler =>
      refine ⟨h.gpus, h.tmp, h.main, ?_, h.cycles, h.inRange⟩
      intro count i d hnext
      cases init with
      | false => cases hnext
      | true =>
          cases hnext
          exact hcontained.trans_eq h.gpus
  | sample info count i d hsampler hlt => exact h.sample hsampler hlt info
  | launch k init nvml data hcycle =>
      refine ⟨h.gpus, h.tmp, h.main, h.sampler, fits_set h.cycles le_rfl k ?_, h.inRange⟩
      cases init with
      | false => trivial
      | true => exact ⟨hcontained.trans_eq h.gpus, Nat.zero_le _⟩
  | turn k nvml reading data count i hcycle hlt => exact h.turn hcycle hlt nvml reading
  | finish k data count i hcycle =>
      exact ⟨h.gpus, h.tmp, h.main, h.sampler, fits_set h.cycles le_rfl k trivial, h.inRange⟩
  | serve event run hcall hserves => exact h.serve hserves

end Invariant

theorem tables_start {Device : Type} {init : Bool} {nvml : Nvml Device}
    {profile : Device → Profile} {name : String} {v : Vars}
    (h : startup init nvml profile name = .ok v) :
    Tables (deviceCount init nvml) { vars := v } := by
  obtain ⟨node, -, rfl⟩ := startup_eq_ok h
  refine ⟨?_, ?_, fun i statement hmain => (by cases hmain), fun count i d hs => (by cases hs),
    fun cycle hmem => (by cases hmem), fun fault hf => (by cases hf)⟩
  · simp [Vars.gpus]
  · intro d
    cases d <;> simp [Vars.tmp]

/-- No run whose queries find no more GPUs than `main` did goes behind a table. -/
theorem tables_in_range {Device : Type} {init : Bool} {nvml : Nvml Device}
    {profile : Device → Profile} {name : String} {v : Vars}
    (hstart : startup init nvml profile name = .ok v) {events : List (Event Device)}
    (hcontained : Along step Contained { vars := v } events) {s : State}
    (hrun : run step { vars := v } events = some s) : InRange s :=
  (run_inv_of_along (Tables (deviceCount init nvml)) (fun _ _ _ h hstep hc => h.step hstep hc)
    (tables_start hstart) hcontained hrun).inRange

/-- A sampler and a cycle that find the GPU of the start. -/
theorem tables_in_range_of_one_gpu :
    ∃ v s, startup true oneGPU (fun _ => {}) "node" = .ok v ∧
      run step { vars := v } [.collect {} {}, .launchSampler true oneGPU, .launch 0 true oneGPU,
        .sample 5, .flush, .turn 0 oneGPU idleReading] = some s ∧ InRange s := by
  refine ⟨_, _, rfl, rfl, ?_⟩
  refine @tables_in_range Unit true oneGPU (fun _ => {}) "node" _ rfl
    [.collect {} {}, .launchSampler true oneGPU, .launch 0 true oneGPU, .sample 5, .flush,
      .turn 0 oneGPU idleReading] ?_ _ rfl
  apply along_cons rfl trivial
  apply along_cons rfl (le_refl 1)
  apply along_cons rfl (le_refl 1)
  apply along_cons rfl trivial
  apply along_cons rfl trivial
  apply along_cons rfl trivial
  trivial

/-- A driver that comes up after the start: a cycle goes behind the empty table. -/
theorem tables_fault_of_late_driver :
    ∃ v s, startup false { oneGPU with deviceGetCount := none } (fun _ => {}) "node" = .ok v ∧
      run step { vars := v } [.collect {} {}, .launch 0 true oneGPU,
        .turn 0 oneGPU idleReading] = some s ∧ ¬InRange s := by
  refine ⟨_, _, rfl, rfl, ?_⟩
  intro h
  exact h ⟨.indexOutOfRange, .gpumetric⟩ rfl ⟨rfl, Or.inl rfl⟩

end MetricCollector.Main
