import MetricCollector.Analyzer.Silence
import MetricCollector.Main.Ranges

/-!
# How long the process lives

A cycle that leaves its loop starts `Analyzer` in a goroutine of its own, on a copy of
the node.  The GPUs of the copy are the GPUs of the node, since they are pointers.
`World` is the process with these goroutines.

* `length_gpus_of_step` says that a node keeps the GPUs that it started with.
* `analyzer_of_gpus` is what `Analyzer` does on a node with a GPU.
* `analyzer_ends_process` is what follows for every run.
-/

namespace MetricCollector.Main

open GoLib Schedule Grpcs Storage Gpumpsmetric Nvlink Server

/-! ## The number of GPUs -/

/-- Code that keeps the number of GPUs, or faults. -/
theorem length_gpus_exec {s : State} {run : Exec Vars} {next : Vars → State}
    (h : ∀ w, run = .ok w → w.gpus.length = s.vars.gpus.length ∧ (next w).vars = w) :
    (s.exec run next).vars.gpus.length = s.vars.gpus.length := by
  rcases exec_cases s run next with ⟨w, hrun, hnext⟩ | ⟨fault, -, hnext⟩
  · obtain ⟨hsame, hvars⟩ := h w hrun
    rw [hnext, hvars]
    exact hsame
  · rw [hnext]

theorem length_gpus_of_step {Device : Type} {s t : State} {event : Event Device}
    (h : step s event = some t) : t.vars.gpus.length = s.vars.gpus.length := by
  obtain ⟨-, hsteps⟩ := steps_of_step h
  cases hsteps with
  | collect readings data hmain => rfl
  | flush i statement hmain =>
      refine length_gpus_exec fun w hrun => ⟨?_, rfl⟩
      cases statement with
      | read d =>
          rcases bind_eq_ok.mp hrun with ⟨x, -, hrun⟩
          rcases bind_eq_ok.mp hrun with ⟨gpu, -, hrun⟩
          cases hrun
          exact (keeps_setGPU s.vars i _).gpus
      | reset d =>
          rcases bind_eq_ok.mp hrun with ⟨x, -, hrun⟩
          cases hrun
          exact (keeps_setTmp s.vars d i 0).gpus
  | launchSampler init nvml hsampler => rfl
  | sample info count i d hsampler hlt =>
      refine length_gpus_exec fun w hrun => ⟨?_, rfl⟩
      obtain ⟨-, rfl⟩ := sample_eq_ok.mp hrun
      exact (keeps_setTmp s.vars d i _).gpus
  | launch k init nvml data hcycle => rfl
  | turn k nvml reading data count i hcycle hlt =>
      refine length_gpus_exec fun w hrun => ⟨?_, rfl⟩
      obtain ⟨entry, gpu, out, -, -, -, rfl⟩ := gpumetricTurn_eq_ok hrun
      exact (keeps_setGPU s.vars i _).gpus
  | finish k data count i hcycle => rfl
  | serve event run hcall hserves =>
      refine length_gpus_exec fun w hrun => ⟨?_, rfl⟩
      rcases bind_eq_ok.mp hrun with ⟨collector, hcollector, hw⟩
      cases hw
      exact (hserves.leaves collector hcollector).length_gpus

/-! ## The process with its analyses -/

/-- The process, with the nodes that `Analyzer` was started on. -/
structure World where
  process : State
  pending : List GrpcNode := []
  session : Analyzer.Session

/-- A goroutine of the process goes on, or one of `Analyzer` runs. -/
inductive WorldEvent (Device : Type) where
  | process (event : Event Device)
  | analyzer (j : Nat)

/-- The end of a cycle starts `Analyzer`. -/
def World.started {Device : Type} (w : World) : Event Device → List GrpcNode
  | .finish _ => w.pending ++ [w.process.vars.collector.node]
  | _ => w.pending

/-- `Analyzer` on one of the nodes. -/
def World.analyze (config : Analyzer.Config) (w : World) (node : GrpcNode)
    (pending : List GrpcNode) : World :=
  match Analyzer.analyzer config w.session { node with nodeGPU := w.process.vars.gpus } with
  | .ok (_, session) => { w with pending := pending, session := session }
  | .error fault => { w with process := { w.process with fault := some fault }, pending := pending }

/-- One step.  There is none after a fault in any goroutine. -/
def worldStep {Device : Type} (config : Analyzer.Config) (w : World) :
    WorldEvent Device → Option World
  | .process event =>
      (step w.process event).map fun process =>
        { w with process := process, pending := w.started event }
  | .analyzer j =>
      if w.process.fault ≠ none then none
      else (w.pending[j]?).map fun node => w.analyze config node (w.pending.eraseIdx j)

/-- The tree of `Analyzer` has no entry for the first GPU. -/
theorem analyzer_of_gpus (config : Analyzer.Config) (s : Analyzer.Session) {node : GrpcNode}
    (hgpus : node.nodeGPU ≠ []) :
    Analyzer.analyzer config s node = .error ⟨.indexOutOfRange, .nodeDegradation⟩ := by
  cases hlist : node.nodeGPU with
  | nil => exact absurd hlist hgpus
  | cons gpu gpus =>
      have hturn : ∀ s, Analyzer.gpuTurn config node
          ({ nodeName := node.grpcNodeName }, s) 0 =
            .error ⟨.indexOutOfRange, .nodeDegradation⟩ := by
        intro s
        unfold Analyzer.gpuTurn
        rw [hlist]
        rfl
      unfold Analyzer.analyzer Analyzer.nodeDegradation
      rw [hlist, List.length_cons, List.range_succ_eq_map, List.foldlM_cons, hturn]
      rfl

/-- `Analyzer` runs on a node that it was started on. -/
theorem worldStep_analyzer {Device : Type} {config : Analyzer.Config} {w w' : World} {j : Nat}
    (h : worldStep config w (.analyzer j : WorldEvent Device) = some w') :
    ∃ node, w.pending[j]? = some node ∧ w' = w.analyze config node (w.pending.eraseIdx j) := by
  unfold worldStep at h
  dsimp only at h
  split_ifs at h
  obtain ⟨node, hnode, rfl⟩ := Option.map_eq_some_iff.mp h
  exact ⟨node, hnode, rfl⟩

/-- The number of GPUs is as before. -/
theorem length_gpus_of_worldStep {Device : Type} {config : Analyzer.Config} {w w' : World}
    {event : WorldEvent Device} (h : worldStep config w event = some w') :
    w'.process.vars.gpus.length = w.process.vars.gpus.length := by
  cases event with
  | process event =>
      obtain ⟨process, hstep, rfl⟩ := Option.map_eq_some_iff.mp h
      exact length_gpus_of_step hstep
  | analyzer j =>
      obtain ⟨node, -, rfl⟩ := worldStep_analyzer h
      unfold World.analyze
      cases Analyzer.analyzer config w.session { node with nodeGPU := w.process.vars.gpus } with
      | ok out => rfl
      | error fault => rfl

/-- Nothing happens after a fault. -/
theorem worldStep_of_fault {Device : Type} {config : Analyzer.Config} {w : World}
    {fault : Fault Frame} (h : w.process.fault = some fault) (event : WorldEvent Device) :
    worldStep config w event = none := by
  have hfault : w.process.fault ≠ none := by
    rw [h]
    exact Option.some_ne_none fault
  cases event with
  | process event =>
      have hnone : step w.process event = none := if_pos hfault
      show (step w.process event).map _ = none
      rw [hnone]
      rfl
  | analyzer j => exact if_pos hfault

/-- On a node with a GPU the first analysis is the last thing that happens, whatever the
database would answer: the process ends with an index out of range. -/
theorem analyzer_ends_process {Device : Type} {init : Bool} {nvml : Nvml Device}
    {profile : Device → Profile} {name : String} {v : Vars}
    (hstart : startup init nvml profile name = .ok v) (hgpus : deviceCount init nvml ≠ 0)
    {config : Analyzer.Config} {session : Analyzer.Session}
    {before after : List (WorldEvent Device)} {j : Nat} {w : World}
    (hrun : run (worldStep config) { process := { vars := v }, session := session }
      (before ++ .analyzer j :: after) = some w) :
    after = [] ∧ w.process.fault = some ⟨.indexOutOfRange, .nodeDegradation⟩ := by
  have hlength : v.gpus.length = deviceCount init nvml := by
    obtain ⟨node, -, rfl⟩ := startup_eq_ok hstart
    show ((List.range (deviceCount init nvml)).map _).length = _
    rw [List.length_map, List.length_range]
  rw [run_append, Option.bind_eq_some_iff] at hrun
  obtain ⟨w₁, hbefore, hrun⟩ := hrun
  rw [run_cons, Option.bind_eq_some_iff] at hrun
  obtain ⟨w₂, hanalyzer, hafter⟩ := hrun
  have hkept : w₁.process.vars.gpus.length = deviceCount init nvml := by
    refine run_inv (fun w : World => w.process.vars.gpus.length = deviceCount init nvml) ?_
      hlength hbefore
    intro w event w' hw hstep
    exact (length_gpus_of_worldStep hstep).trans hw
  have hnonempty : w₁.process.vars.gpus ≠ [] := by
    intro hnil
    rw [hnil] at hkept
    exact hgpus hkept.symm
  have hfault : w₂.process.fault = some ⟨.indexOutOfRange, .nodeDegradation⟩ := by
    obtain ⟨node, -, rfl⟩ := worldStep_analyzer hanalyzer
    have hends := @analyzer_of_gpus config w₁.session
      { node with nodeGPU := w₁.process.vars.gpus } hnonempty
    unfold World.analyze
    rw [hends]
  cases after with
  | nil =>
      cases hafter
      exact ⟨rfl, hfault⟩
  | cons event after =>
      rw [run_cons, worldStep_of_fault hfault] at hafter
      cases hafter

/-- The first cycle of a node with one GPU, and the analysis after it. -/
theorem analyzer_ends_process_after_cycle :
    ∃ v w, startup true oneGPU (fun _ => {}) "node" = .ok v ∧
      run (worldStep Analyzer.oneRow)
        { process := { vars := v }, session := { client := Analyzer.clientOf [] } }
        ([.process (.collect {} ⟨[{}]⟩), .process (.launch 0 true oneGPU),
          .process (.turn 0 oneGPU idleReading), .process (.finish 0)] ++ .analyzer 0 :: []) =
        some w ∧
      w.process.fault = some ⟨.indexOutOfRange, .nodeDegradation⟩ :=
  ⟨_, _, rfl, rfl, (@analyzer_ends_process Unit true oneGPU (fun _ => {}) "node" _ rfl
    (by decide) Analyzer.oneRow { client := Analyzer.clientOf [] }
    [.process (.collect {} ⟨[{}]⟩), .process (.launch 0 true oneGPU),
      .process (.turn 0 oneGPU idleReading), .process (.finish 0)] [] 0 _ rfl).2⟩

end MetricCollector.Main
