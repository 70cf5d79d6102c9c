import MetricCollector.GoLib.Simulation
import MetricCollector.Main.Accounts

/-!
# Runs without the calls of the schedulers

Any number of schedulers may call while the collector works.  Their calls leave
the last storage sent in the process, which no other goroutine looks at.

* `step_withStorage` says so for each step of another goroutine.
* `calls_leave_no_trace` takes all calls out of a run.
-/

namespace MetricCollector.Main

open GoLib Schedule Grpcs Storage Gpumpsmetric Nvlink Server

/-! ## Steps that do not look at the last storage sent -/

section Commute

variable {Device : Type} (v : Vars) (p : Int64)

/-- Code that returned from a state returns from the same state with another
storage, and a goroutine goes on from there in the same way. -/
theorem exec_withStorage {s : State} {run run' : Exec Vars} {next next' : Vars → State}
    (hrun : run' = run.map (Vars.withStorage · p))
    (hnext : ∀ v, next' (v.withStorage p) = (next v).withStorage p) :
    (s.withStorage p).exec run' next' = (s.exec run next).withStorage p := by
  subst hrun
  cases run with
  | ok v => exact hnext v
  | error fault => rfl

theorem tmp_withStorage (d : Direction) : (v.withStorage p).tmp d = v.tmp d := by
  cases d <;> rfl

theorem setTmp_withStorage (d : Direction) (i : Nat) (x : Int64) :
    (v.withStorage p).setTmp d i x = (v.setTmp d i x).withStorage p := by
  cases d <;> rfl

theorem sample_withStorage (d : Direction) (i : Nat) (info : UInt32) :
    sample d i info (v.withStorage p) = (sample d i info v).map (Vars.withStorage · p) := by
  unfold sample
  rw [tmp_withStorage, map_bind]
  congr 1
  funext x
  exact congrArg Except.ok (setTmp_withStorage v p d i _)

theorem Statement.run_withStorage (i : Nat) (statement : Statement) :
    statement.run i (v.withStorage p) = (statement.run i v).map (Vars.withStorage · p) := by
  cases statement with
  | read d =>
      show (index Frame.getRXTXData ((v.withStorage p).tmp d) i >>= _) = Except.map _ (_ >>= _)
      rw [tmp_withStorage, map_bind]
      congr 1
      funext x
      rw [map_bind]
      rfl
  | reset d =>
      show (index Frame.getRXTXData ((v.withStorage p).tmp d) i >>= _) = Except.map _ (_ >>= _)
      rw [tmp_withStorage, map_bind]
      congr 1
      funext x
      exact congrArg Except.ok (setTmp_withStorage v p d i 0)

theorem gpumetricTurn_withStorage (nvml : Nvml Device) (reading : Reading) (data : Collection)
    (count i : Nat) :
    gpumetricTurn nvml reading data count i (v.withStorage p) =
      (gpumetricTurn nvml reading data count i v).map (Vars.withStorage · p) := by
  unfold gpumetricTurn
  cases reading.found with
  | false => rfl
  | true =>
      show (index Frame.gpumetric (grow v.podmap count) i >>= _) = Except.map _ (_ >>= _)
      rw [map_bind]
      congr 1
      funext entry
      rw [map_bind]
      congr 1
      funext gpu
      rw [map_bind]
      rfl

end Commute

/-- A step that is no call does the same whatever storage was sent last. -/
theorem step_withStorage {Device : Type} {s t : State} (p : Int64) {event : Event Device}
    (hcall : event.isCall = false) (h : step s event = some t) :
    step (s.withStorage p) event = some (t.withStorage p) := by
  obtain ⟨hnone, hsteps⟩ := steps_of_step h
  have hrunning : ¬(s.withStorage p).fault ≠ none := not_not.mpr hnone
  unfold step
  rw [if_neg hrunning]
  cases hsteps with
  | collect readings data hmain =>
      have hmain' : (s.withStorage p).main = .collecting := hmain
      simp only [hmain']
      rfl
  | flush i statement hmain =>
      have hmain' : (s.withStorage p).main = .flushing i statement := hmain
      simp only [hmain']
      refine congrArg some (exec_withStorage p (statement.run_withStorage s.vars p i) ?_)
      intro v
      have hflushed : flushedBy (s.withStorage p) i statement = flushedBy s i statement := by
        cases statement with
        | read d => cases d <;> rfl
        | reset d => rfl
      rw [hflushed]
      rfl
  | launchSampler init nvml hsampler =>
      have hsampler' : (s.withStorage p).sampler = .ready := hsampler
      simp only [hsampler']
      rfl
  | sample info count i d hsampler hlt =>
      have hsampler' : (s.withStorage p).sampler = .sampling count i d := hsampler
      simp only [hsampler', if_pos hlt]
      exact congrArg some (exec_withStorage p (sample_withStorage s.vars p d i info) fun _ => rfl)
  | launch k init nvml data hcycle =>
      have hcycle' : (s.withStorage p).cycles[k]? = some (.ready data) := hcycle
      simp only [hcycle']
      rfl
  | turn k nvml reading data count i hcycle hlt =>
      have hcycle' : (s.withStorage p).cycles[k]? = some (.running data count i) := hcycle
      simp only [hcycle', if_pos hlt]
      exact congrArg some (exec_withStorage p
        (gpumetricTurn_withStorage s.vars p nvml reading data count i) fun _ => rfl)
  | finish k data count i hcycle =>
      have hcycle' : (s.withStorage p).cycles[k]? = some (.running data count i) := hcycle
      have hdone : ¬i < count := by
        intro hlt
        unfold step at h
        rw [if_neg (not_not.mpr hnone)] at h
        simp only [hcycle, if_pos hlt] at h
        cases h
      simp only [hcycle', if_neg hdone]
      rfl
  | serve event run hcall' hserves =>
      rw [hcall] at hcall'
      cases hcall'

/-! ## Runs -/

/-- Without the calls of the schedulers a run goes on as it did: the same events
are possible, and the process ends in the same state, but for the last storage
sent. -/
theorem calls_leave_no_trace {Device : Type} {init : Bool} {nvml : Nvml Device}
    {profile : Device → Profile} {name : String} {v : Vars}
    (hstart : startup init nvml profile name = .ok v) {events : List (Event Device)} {s : State}
    (hrun : run step { vars := v } events = some s) :
    run step { vars := v } (events.filter fun event => !event.isCall) =
      some (s.withStorage 0) := by
  let R : State → State → Prop := fun s t => Answerable s.vars.collector ∧ t = s.withStorage 0
  have hunsent : ({ vars := v } : State) = ({ vars := v } : State).withStorage 0 := by
    obtain ⟨node, -, rfl⟩ := startup_eq_ok hstart
    rfl
  obtain ⟨t, ht, -, rfl⟩ : ∃ t, run step { vars := v } (events.filter fun event =>
      !event.isCall) = some t ∧ R s t := by
    refine run_filter R (fun event => !event.isCall) ?_ ?_ ⟨answerable_start hstart, hunsent⟩ hrun
    · intro s s' t event hrel hsees hstep
      obtain ⟨hs, rfl⟩ := hrel
      have hcall : event.isCall = false := by rwa [Bool.not_eq_true'] at hsees
      exact ⟨_, step_withStorage 0 hcall hstep, hs.step hstep, rfl⟩
    · intro s s' t event hrel hsees hstep
      obtain ⟨hs, rfl⟩ := hrel
      have hcall : event.isCall = true := by rwa [Bool.not_eq_false'] at hsees
      obtain ⟨prevNodeStorage, rfl⟩ := step_call hs hcall hstep
      exact ⟨hs.step hstep, rfl⟩
  exact ht

/-- A cycle and a flush between the calls of a scheduler. -/
theorem calls_leave_no_trace_in_cycle :
    ∃ v s, startup true oneGPU (fun _ => {}) "node" = .ok v ∧
      run step { vars := v } [.getInitData, .collect { nodetotalstorage := 5 } {}, .getNode,
        .launch 0 true oneGPU, .getGPU "GPU-0", .turn 0 oneGPU idleReading, .flush, .getNode] =
          some s ∧ s.vars.collector.prevNodeStorage = 5 ∧
      run step { vars := v } [.collect { nodetotalstorage := 5 } {}, .launch 0 true oneGPU,
        .turn 0 oneGPU idleReading, .flush] = some (s.withStorage 0) :=
  ⟨_, _, rfl, rfl, rfl, @calls_leave_no_trace Unit true oneGPU (fun _ => {}) "node" _ rfl
    [.getInitData, .collect { nodetotalstorage := 5 } {}, .getNode, .launch 0 true oneGPU,
      .getGPU "GPU-0", .turn 0 oneGPU idleReading, .flush, .getNode] _ rfl⟩

end MetricCollector.Main
