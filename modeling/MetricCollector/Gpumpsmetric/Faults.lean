import MetricCollector.Gpumpsmetric.Retry

/-!
# The faults of `Gpumpsmetric`

Every fault of a call of `Gpumpsmetric` is raised by its own code or by
`getgpuprocess`, whatever the host, the API server and NVML answer.
`gpumpsmetric_faultsIn` follows the call from the line loop up.
-/

namespace MetricCollector.Gpumpsmetric

open GoLib Grpcs Storage

/-- The functions of the package. -/
def IsOwn (frame : Frame) : Prop := frame = .gpumpsmetric ∨ frame = .getgpuprocess

theorem isOwn_gpumpsmetric : IsOwn .gpumpsmetric := Or.inl rfl

theorem isOwn_getgpuprocess : IsOwn .getgpuprocess := Or.inr rfl

/-! ## The snapshot -/

theorem cgroupLine_faultsIn (cgroup : String) : FaultsIn IsOwn (cgroupLine cgroup) := by
  have hindex : ∀ (xs : List String) i, FaultsIn IsOwn (index .getgpuprocess xs i) :=
    fun xs i => faultsIn_index isOwn_getgpuprocess xs i
  refine faultsIn_bind (hindex _ _) fun root => ?_
  refine faultsIn_ite (faultsIn_ite ?_ (faultsIn_ok _)) (faultsIn_ok _)
  refine faultsIn_bind (hindex _ _) fun leaf => ?_
  refine faultsIn_ite ?_ (faultsIn_ok _)
  refine faultsIn_bind (hindex _ _) fun scope => ?_
  exact faultsIn_bind (hindex _ _) fun id => faultsIn_ok _

theorem scanCgroup_faultsIn (ids : List String) (mpscount : Nat) (lines : List String) :
    FaultsIn IsOwn (scanCgroup ids mpscount lines) := by
  induction lines generalizing ids with
  | nil => exact faultsIn_ok _
  | cons cgroup lines ih =>
      refine faultsIn_bind (cgroupLine_faultsIn cgroup) fun line => ?_
      cases line with
      | other => exact ih ids
      | shallow => exact ih (ids ++ [""])
      | container id => exact faultsIn_ok _

theorem getgpuprocess_faultsIn (host : Host) (processes : List ProcessInfo) :
    FaultsIn IsOwn (getgpuprocess host processes) := by
  apply faultsIn_foldlM
  intro acc process _
  exact faultsIn_bind (scanCgroup_faultsIn _ _ _) fun _ => faultsIn_ok _

theorem attemptOnce_faultsIn (uuid : String) (attempt : Attempt) :
    FaultsIn IsOwn (attemptOnce uuid attempt) := by
  refine faultsIn_bind (getgpuprocess_faultsIn _ _) fun snapshot => ?_
  cases hpods : attempt.getpodlist with
  | none => exact faultsIn_error isOwn_gpumpsmetric
  | some podlist =>
      exact faultsIn_ite (faultsIn_ok _) (faultsIn_ite (faultsIn_ok _) (faultsIn_ok _))

theorem retryLoop_faultsIn (uuid : String) (attempts : List Attempt) (mps : Processinfo) :
    FaultsIn IsOwn (retryLoop uuid attempts mps) := by
  induction attempts generalizing mps with
  | nil => exact faultsIn_ok _
  | cons attempt attempts ih =>
      refine faultsIn_bind (attemptOnce_faultsIn uuid attempt) fun outcome => ?_
      rcases outcome with ⟨mps', runpodlist⟩
      cases runpodlist with
      | none => exact ih mps'
      | some runpodlist => exact faultsIn_ok _

/-! ## The loops over the pods -/

theorem fillPods_faultsIn (uuid : String) (runpodlist : List Pod) :
    FaultsIn IsOwn (fillPods uuid runpodlist) := by
  have hindex : ∀ {α : Type} (xs : List α) i, FaultsIn IsOwn (index .gpumpsmetric xs i) :=
    fun xs i => faultsIn_index isOwn_gpumpsmetric xs i
  have hfill : ∀ acc pod, FaultsIn IsOwn (fillSlot acc pod) := by
    intro acc pod
    refine faultsIn_bind (hindex _ _) fun slot => ?_
    refine faultsIn_bind (hindex _ _) fun container => ?_
    refine faultsIn_bind (hindex _ _) fun status => ?_
    refine faultsIn_bind ?_ fun startedAt => faultsIn_ok _
    cases status.running with
    | none => exact faultsIn_error isOwn_gpumpsmetric
    | some time => exact faultsIn_ok _
  apply faultsIn_foldlM
  intro acc pod _
  exact faultsIn_foldlM (fun acc _ _ => hfill acc pod) acc

theorem mapPods_faultsIn (mps : Processinfo) (data : Collection) (gpumpsmap : List GpuMpsMap)
    (podnum : Nat) (gpuPod : List PodMetric) :
    FaultsIn IsOwn (mapPods mps data gpumpsmap podnum gpuPod) := by
  have hindex : ∀ {α : Type} (xs : List α) i, FaultsIn IsOwn (index .gpumpsmetric xs i) :=
    fun xs i => faultsIn_index isOwn_gpumpsmetric xs i
  have hmatch : ∀ slot i k id gpuPod,
      FaultsIn IsOwn (matchProcess mps data slot i k id gpuPod) := by
    intro slot i k id gpuPod
    refine faultsIn_bind (hindex _ _) fun entry => ?_
    refine faultsIn_bind (hindex _ _) fun process => ?_
    refine faultsIn_bind (hindex _ _) fun name => ?_
    exact faultsIn_bind (hindex _ _) fun batch => faultsIn_ok _
  have hscan : ∀ slot i gpuPod ks, FaultsIn IsOwn (scanProcesses mps data slot i gpuPod ks) := by
    intro slot i gpuPod ks
    induction ks with
    | nil => exact faultsIn_ok _
    | cons k ks ih =>
        refine faultsIn_bind (hindex _ _) fun id => faultsIn_ite ih ?_
        refine faultsIn_bind (hindex _ _) fun containerid => ?_
        exact faultsIn_ite (hmatch slot i k containerid gpuPod) ih
  apply faultsIn_foldlM
  intro gpuPod i _
  exact faultsIn_bind (hindex _ _) fun slot => hscan slot i gpuPod _

theorem writePods_faultsIn (uuid : String) (gpuPod : List PodMetric) (podnum : Nat) :
    FaultsIn IsOwn (writePods uuid gpuPod podnum) := by
  intro fault h
  rcases mapM_eq_error h with ⟨i, -, hi⟩
  have hentry : FaultsIn IsOwn (index .gpumpsmetric gpuPod i) :=
    faultsIn_index isOwn_gpumpsmetric gpuPod i
  exact faultsIn_bind hentry (fun _ => faultsIn_ok _) fault hi

/-! ## The call -/

theorem gpumpsmetric_faultsIn (uuid : String) (env : Nat → Attempt) (data : Collection)
    (podmap : List PodGPU) (gpu : GrpcGPU) :
    FaultsIn IsOwn (gpumpsmetric uuid env data podmap gpu) := by
  refine faultsIn_bind (retryLoop_faultsIn uuid _ _) fun accepted => ?_
  refine faultsIn_bind (fillPods_faultsIn uuid _) fun filled => ?_
  refine faultsIn_bind (mapPods_faultsIn _ _ _ _ _) fun gpuPod => ?_
  exact faultsIn_bind (writePods_faultsIn uuid _ _) fun points => faultsIn_ok _

end MetricCollector.Gpumpsmetric
