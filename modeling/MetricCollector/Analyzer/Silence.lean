import MetricCollector.Analyzer.Degradation
import MetricCollector.GoLib.Returns
import MetricCollector.GoLib.Schedule

/-!
# The analyzer never finds anything

The two counters go up when a verdict is zero.  The verdict on a pod needs the pattern,
which is never confirmed.  The verdict on a GPU needs a history that has passed the row
check, which lets none through, or a division by zero comes before it.  The verdict on a
node goes into no counter.

* `returns_getPodMetric` and `returns_getGPUMetrics` say what the two verdicts can be.
* `quiet_podDegradation`, `quiet_gpuDegradation` and `quiet_nodeDegradation` are the
  handlers.
* `analyzer_silent` is the result about any sequence of calls.
-/

namespace MetricCollector.Analyzer

open GoLib Schedule Grpcs Influx

/-! ## The verdicts -/

theorem returns_patternAnswer (outcome : QueryOutcome) :
    Returns (fun answer => answer = false) (patternAnswer outcome) := by
  unfold patternAnswer
  refine returns_bind_of_forall fun usable _ => ?_
  cases usable with
  | none => exact returns_ok rfl
  | some response =>
      refine returns_bind_of_forall fun values _ => ?_
      exact returns_bind_of_forall fun data _ => returns_ok rfl

theorem returns_patternVerdict (c : Client) (curr : Grpcs.PodMetric) (uuid : String) :
    Returns (fun ret => ret.1 = 1) (patternVerdict c curr uuid) := by
  unfold patternVerdict getPodPattern
  refine returns_bind (returns_bind (returns_patternAnswer _) fun answer hanswer =>
    (returns_ok hanswer : Returns (fun ret : Bool × Client => ret.1 = false) _)) ?_
  intro ret hret
  obtain ⟨confirmed, c'⟩ := ret
  cases hret
  exact returns_ok rfl

/-- The threshold of a pod is never zero. -/
theorem returns_podThreshold (config : Config) (aver : PodMetric) (curr : Grpcs.PodMetric)
    (c : Client) (uuid : String) :
    Returns (fun ret => ret.1 = 1) (podThreshold config aver curr c uuid) := by
  have hpattern := returns_patternVerdict c curr uuid
  have hok : Returns (fun ret : Int64 × Client => ret.1 = 1) (.ok (1, c) : Exec _) := returns_ok rfl
  unfold podThreshold
  refine returns_ite (returns_ite hpattern hok) (returns_ite hok ?_)
  repeat' first | exact hpattern | exact hok | apply returns_ite

theorem returns_getPodMetric (config : Config) (c : Client) (pod : Grpcs.PodMetric) (uuid : String)
    (entry : Option DegradationPod) :
    Returns (fun ret => ret.1 = 1 ∨ ret.1 = 2) (getPodMetric config c pod uuid entry) := by
  unfold getPodMetric
  refine returns_bind_of_forall fun history _ => ?_
  obtain ⟨history, entry⟩ := history
  cases history with
  | none => exact returns_ok (Or.inr rfl)
  | some rows =>
      refine returns_bind_of_forall fun aver _ => ?_
      refine returns_bind (returns_podThreshold config aver pod _ uuid) fun ret hret => ?_
      exact returns_ok (Or.inl hret)

section Flags

variable {config : Config}

/-- With a flag of zero there are no averages. -/
theorem returns_gpuStatistics (hzero : config.countNumber = 0) (rows : List (List Cell)) :
    Returns (fun _ => False) (gpuStatistics config rows) := by
  unfold gpuStatistics GPUMetric.average
  rw [hzero]
  refine returns_bind_of_forall fun aver _ => ?_
  exact returns_bind_of_never (returns_bind_of_never (returns_divInt64_zero _ _))

/-- With any other no history passes its row check. -/
theorem one_le_of_ne_zero (hcount : 0 ≤ config.countNumber) (hzero : config.countNumber ≠ 0) :
    1 ≤ config.countNumber := by
  have hint : config.countNumber.toInt ≠ 0 := fun h => hzero (Int64.toInt_inj.mp h)
  rw [Int64.le_iff_toInt_le] at hcount ⊢
  have hle : (0 : Int) ≤ config.countNumber.toInt := hcount
  show (1 : Int) ≤ config.countNumber.toInt
  omega

/-- A GPU has no verdict. -/
theorem returns_getGPUMetrics (hcount : 0 ≤ config.countNumber) (c : Client) (gpu : GrpcGPU)
    (entry : Option DegradationGPU) :
    Returns (fun ret => ret.1 = 2) (getGPUMetrics config c gpu entry) := by
  unfold getGPUMetrics
  refine returns_bind_of_forall fun history hhistory => ?_
  obtain ⟨history, entry'⟩ := history
  cases history with
  | none => exact returns_ok rfl
  | some rows =>
      by_cases hzero : config.countNumber = 0
      · exact returns_bind_of_never (returns_gpuStatistics hzero rows)
      · exact absurd hhistory
          (gpuHistory_ne_some (one_le_of_ne_zero hcount hzero) gpu entry _ rows entry')

/-! ## The handlers -/

/-- The counters are as before. -/
structure Quiet (s s' : Session) : Prop where
  gpu : s'.gpuDegradationCount = s.gpuDegradationCount
  node : s'.nodeDegradationCount = s.nodeDegradationCount

theorem quiet_refl (s : Session) : Quiet s s := ⟨rfl, rfl⟩

theorem Quiet.trans {s s' s'' : Session} (h : Quiet s s') (h' : Quiet s' s'') : Quiet s s'' :=
  ⟨h'.gpu.trans h.gpu, h'.node.trans h.node⟩

theorem quiet_podDegradation (config : Config) (s : Session) (pod : Grpcs.PodMetric)
    (uuid : String) (entry : Option DegradationPod) :
    Returns (fun out => Quiet s out.2) (podDegradation config s pod uuid entry) := by
  unfold podDegradation
  refine returns_bind (returns_getPodMetric config s.client pod uuid entry) fun ret hret => ?_
  obtain ⟨ret, entry', c⟩ := ret
  have hverdict : ret = 1 ∨ ret = 2 := hret
  have hne : ret ≠ 0 := by
    rcases hverdict with rfl | rfl
    · decide
    · decide
  dsimp only
  rw [if_neg hne]
  exact returns_ok ⟨rfl, rfl⟩

theorem quiet_podTurn (config : Config) (gpu : GrpcGPU) (acc : Option DegradationGPU × Session)
    (i : Nat) : Returns (fun out => Quiet acc.2 out.2) (podTurn config gpu acc i) := by
  unfold podTurn
  refine returns_bind_of_forall fun e _ => returns_bind_of_forall fun pod _ => ?_
  refine returns_bind_of_forall fun slot _ => ?_
  refine returns_bind (quiet_podDegradation config acc.2 pod gpu.grpcGPUUUID slot)
    fun out hout => ?_
  exact returns_ok hout

theorem quiet_gpuDegradation (hcount : 0 ≤ config.countNumber) (s : Session) (gpu : GrpcGPU)
    (entry : Option DegradationGPU) :
    Returns (fun out => Quiet s out.2) (gpuDegradation config s gpu entry) := by
  have hturn : ∀ acc : Option DegradationGPU × Session, Quiet s acc.2 → ∀ i,
      Returns (fun out => Quiet s out.2) (podTurn config gpu acc i) := by
    intro acc hacc i out hout
    exact hacc.trans (quiet_podTurn config gpu acc i out hout)
  unfold gpuDegradation
  refine returns_bind (returns_foldlM hturn (quiet_refl s)) fun acc hacc => ?_
  obtain ⟨entry', s'⟩ := acc
  refine returns_bind (returns_getGPUMetrics hcount s'.client gpu entry') fun ret hret => ?_
  obtain ⟨ret, entry'', c⟩ := ret
  have hverdict : ret = 2 := hret
  have hne : ret ≠ 0 := by
    rw [hverdict]
    decide
  dsimp only
  rw [if_neg hne]
  exact returns_ok ⟨hacc.gpu, hacc.node⟩

theorem quiet_nodeDegradation (hcount : 0 ≤ config.countNumber) (s : Session) (node : GrpcNode)
    (d : Degradation) : Returns (fun out => Quiet s out.2) (nodeDegradation config s node d) := by
  have hturn : ∀ acc : Degradation × Session, Quiet s acc.2 → ∀ i,
      Returns (fun out => Quiet s out.2) (gpuTurn config node acc i) := by
    intro acc hacc i
    unfold gpuTurn
    refine returns_bind_of_forall fun gpu _ => returns_bind_of_forall fun entry _ => ?_
    refine returns_bind (quiet_gpuDegradation hcount acc.2 gpu entry) fun out hout => ?_
    exact returns_ok (hacc.trans hout)
  unfold nodeDegradation
  refine returns_bind (returns_foldlM hturn (quiet_refl s)) fun acc hacc => ?_
  refine returns_bind_of_forall fun ret _ => ?_
  exact returns_ok ⟨hacc.gpu, hacc.node⟩

/-! ## Any sequence of calls -/

/-- A call of one of the handlers. -/
inductive Call where
  | pod (pod : Grpcs.PodMetric) (uuid : String) (entry : Option DegradationPod)
  | gpu (gpu : GrpcGPU) (entry : Option DegradationGPU)
  | node (node : GrpcNode) (data : Degradation)

/-- What the call leaves of the session. -/
def Call.run (config : Config) (s : Session) : Call → Exec Session
  | .pod curr uuid entry => do
      let (_, s) ← podDegradation config s curr uuid entry
      return s
  | .gpu curr entry => do
      let (_, s) ← gpuDegradation config s curr entry
      return s
  | .node curr data => do
      let (_, s) ← nodeDegradation config s curr data
      return s

/-- One call after another, as long as they return. -/
def callStep (config : Config) (s : Session) (call : Call) : Option Session :=
  (call.run config s).toOption

theorem quiet_run (hcount : 0 ≤ config.countNumber) (s : Session) (call : Call) :
    Returns (Quiet s) (call.run config s) := by
  cases call with
  | pod pod uuid entry =>
      exact returns_bind (quiet_podDegradation config s pod uuid entry) fun _ h => returns_ok h
  | gpu gpu entry =>
      exact returns_bind (quiet_gpuDegradation hcount s gpu entry) fun _ h => returns_ok h
  | node node data =>
      exact returns_bind (quiet_nodeDegradation hcount s node data) fun _ h => returns_ok h

/-- Whatever the database answers and whatever is measured, no sequence of calls counts
a degradation. -/
theorem analyzer_silent (hcount : 0 ≤ config.countNumber) {s s' : Session} {calls : List Call}
    (hrun : run (callStep config) s calls = some s') :
    s'.gpuDegradationCount = s.gpuDegradationCount ∧
      s'.nodeDegradationCount = s.nodeDegradationCount := by
  have hquiet : Quiet s s' := by
    refine run_inv (Quiet s) ?_ (quiet_refl s) hrun
    intro t call t' ht hstep
    refine ht.trans (quiet_run hcount t call t' ?_)
    unfold callStep at hstep
    cases hcall : call.run config t with
    | error fault =>
        rw [hcall] at hstep
        cases hstep
    | ok u =>
        rw [hcall] at hstep
        cases hstep
        rfl
  exact ⟨hquiet.gpu, hquiet.node⟩

end Flags

/-- Histories of four rows. -/
def rowsOf4 : Config where
  countNumber := 4
  sqrt _ := 2

/-- Four rows whose columns rise. -/
def risingHistory : List (List Cell) :=
  ["4", "5", "6", "9"].map fun text => List.replicate 14 (.number text)

/-- A pod far above that history. -/
def busyPod : Grpcs.PodMetric where
  podName := "a"
  podPid := 1
  podCPU := 100
  podMemory := 100
  podGPUMemory := 100
  podStorage := 100
  podNetworkRX := 100
  podNetworkTX := 100

/-- Its GPU, above its operating maximum. -/
def busyGPU : GrpcGPU where
  grpcGPUUUID := "GPU-0"
  grpcGPUtemp := { current := 90, maxOperating := 80 }
  gpuPod := [busyPod]

/-- A call of each handler. -/
def busyCalls : List Call :=
  [.pod busyPod "GPU-0" (some {}), .gpu busyGPU (some {}),
    .node { grpcNodeName := "node", nodeGPU := [busyGPU], totalPodnum := 1 }
      { nodeName := "node", gpu := [some {}] }]

/-- A pod that rises above a rising history, and its GPU and its node. -/
theorem analyzer_silent_on_busy_node :
    ∃ s', run (callStep rowsOf4) { client := clientOf risingHistory } busyCalls = some s' ∧
      s'.gpuDegradationCount = 0 ∧ s'.nodeDegradationCount = 0 := by
  have hreturns :
      (run (callStep rowsOf4) { client := clientOf risingHistory } busyCalls).isSome = true := by
    decide +kernel
  obtain ⟨s', hrun⟩ := Option.isSome_iff_exists.mp hreturns
  have hcount : 0 ≤ rowsOf4.countNumber := by decide
  exact ⟨s', hrun, analyzer_silent hcount hrun⟩

end MetricCollector.Analyzer
