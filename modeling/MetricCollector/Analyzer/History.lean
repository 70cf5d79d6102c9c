import MetricCollector.Analyzer.Pattern
import MetricCollector.Analyzer.Statistics

/-!
# The query handlers

`GetNodeMetric`, `GetGPUMetrics` and `GetPodMetric` each send one query and
guard the reply before they read it.  `nodeHistory`, `gpuHistory` and
`podHistory` are those guards, as functions of the query's outcome: `none` is
the early return of `2`, `some rows` the history that the function goes on
with.

The main results say which outcomes each guard survives
(`nodeHistory_returns_iff` and its siblings), and that no history passes the
row check of a node or of a GPU (`constantColumn_ne_true`).
-/

namespace MetricCollector.Analyzer

open GoLib Grpcs Influx

/-! ## The queries -/

/-- The query of `GetNodeMetric`. -/
def nodeQuery (config : Config) (node : GrpcNode) : Query where
  command := "SELECT * FROM nodemetric where NodeName='" ++ node.grpcNodeName ++
    "' order by time desc limit " ++ formatInt config.countNumber
  database := "multimetric"

/-- The query of `GetGPUMetrics`. -/
def gpuQuery (config : Config) (gpu : GrpcGPU) : Query where
  command := "select * from gpumetric where UUID='" ++ gpu.grpcGPUUUID ++
    "' order by time desc limit " ++ formatInt config.countNumber
  database := "multimetric"

/-- The query of `GetPodMetric`. -/
def podQuery (config : Config) (pod : Grpcs.PodMetric) (uuid : String) : Query where
  command := "select * from podmetric where gpu_mps_pod = '" ++ pod.podName ++
    "' and gpu_mps_pid = " ++ formatInteger pod.podPid.toNat ++ " and UUID = '" ++ uuid ++
    "' and gpu_mps_cpu != 0 and gpu_mps_nodememory != 0 order by time desc limit " ++
    formatInt config.countNumber
  database := "multimetric"

/-! ## The row check -/

/-- The loop `for i := 0; i < *CountNumber; i++` over `Values[i][column]`: an
`interface{}` against an `int`, row by row, until one differs. -/
def constantColumn (frame : Frame) (rows : List (List Cell)) (column : Nat) (expected : Int64) :
    List Nat → Exec Bool
  | [] => return true
  | i :: is => do
      let row ← index frame rows i
      let cell ← index frame row column
      if cell.toInterface ≠ .int expected then return false
      else constantColumn frame rows column expected is

/-- The indices of the row check. -/
def Config.checkedRows (config : Config) : List Nat := List.range config.countNumber.toInt.toNat

/-- The row count guard `len(...Values) < *CountNumber`. -/
def Config.tooFew (config : Config) (rows : List (List Cell)) : Prop :=
  (rows.length : Int) < config.countNumber.toInt

instance (config : Config) (rows : List (List Cell)) : Decidable (config.tooFew rows) :=
  inferInstanceAs (Decidable (_ < _))

/-! ## The guards -/

/-- `GetNodeMetric` up to its row check. -/
def nodeHistory (config : Config) (node : GrpcNode) (outcome : QueryOutcome) :
    Exec (Option (List (List Cell))) := do
  match ← checkReply .getNodeMetric outcome with
  | none => return none
  | some response =>
      if response.results = [] then return none
      else
        let values ← firstValues .getNodeMetric response
        if config.tooFew values then return none
        else if ← constantColumn .getNodeMetric values 8 node.totalPodnum config.checkedRows then
          return some values
        else return none

/-- `len(GPU_Metric.GPUPod)`. -/
def podCount (gpu : GrpcGPU) : Int64 := Int64.ofNat gpu.gpuPod.length

/-- `GetGPUMetrics` up to its row check.  It names the entry of the GPU once
the reply has results. -/
def gpuHistory (config : Config) (gpu : GrpcGPU) (entry : Option DegradationGPU)
    (outcome : QueryOutcome) : Exec (Option (List (List Cell)) × Option DegradationGPU) := do
  match ← checkReply .getGPUMetrics outcome with
  | none => return (none, entry)
  | some response =>
      if response.results = [] then return (none, entry)
      else
        let e ← deref .getGPUMetrics entry
        let entry := some { e with gpuUUID := gpu.grpcGPUUUID }
        let values ← firstValues .getGPUMetrics response
        if ← constantColumn .getGPUMetrics values 6 (podCount gpu) config.checkedRows then
          return (some values, entry)
        else return (none, entry)

/-- `GetPodMetric` up to its row count guard.  It names the entry of the pod
once the reply reports no error. -/
def podHistory (config : Config) (pod : Grpcs.PodMetric) (entry : Option DegradationPod)
    (outcome : QueryOutcome) : Exec (Option (List (List Cell)) × Option DegradationPod) := do
  match ← checkReply .getPodMetric outcome with
  | none => return (none, entry)
  | some response =>
      let e ← deref .getPodMetric entry
      let entry := some { e with podUID := pod.podUid }
      match response.results with
      | [] => return (none, entry)
      | result :: _ =>
          match result.series with
          | [] => return (none, entry)
          | series :: _ =>
              if config.tooFew series.values then return (none, entry)
              else return (some series.values, entry)

/-! ## The handlers -/

/-- `GetNodeMetric`. -/
def getNodeMetric (config : Config) (c : Client) (node : GrpcNode) : Exec (Int64 × Client) := do
  match ← nodeHistory config node (c.query (nodeQuery config node)).1 with
  | none => return (2, (c.query (nodeQuery config node)).2)
  | some rows =>
      let aver ← nodeStatistics config rows
      let ret ← nodeThreshold config aver node
      return (ret, (c.query (nodeQuery config node)).2)

/-- `GetGPUMetrics`. -/
def getGPUMetrics (config : Config) (c : Client) (gpu : GrpcGPU) (entry : Option DegradationGPU) :
    Exec (Int64 × Option DegradationGPU × Client) := do
  let (history, entry) ← gpuHistory config gpu entry (c.query (gpuQuery config gpu)).1
  match history with
  | none => return (2, entry, (c.query (gpuQuery config gpu)).2)
  | some rows =>
      let aver ← gpuStatistics config rows
      let ret ← gpuThreshold config aver gpu
      return (ret, entry, (c.query (gpuQuery config gpu)).2)

/-- `GetPodMetric`. -/
def getPodMetric (config : Config) (c : Client) (pod : Grpcs.PodMetric) (uuid : String)
    (entry : Option DegradationPod) : Exec (Int64 × Option DegradationPod × Client) := do
  let (history, entry) ← podHistory config pod entry (c.query (podQuery config pod uuid)).1
  match history with
  | none => return (2, entry, (c.query (podQuery config pod uuid)).2)
  | some rows =>
      let aver ← podStatistics config rows
      let (ret, c) ← podThreshold config aver pod (c.query (podQuery config pod uuid)).2 uuid
      return (ret, entry, c)

/-! ## Where `GetNodeMetric` faults -/

theorem raises_constantColumn {p : Fault Frame → Prop} {frame : Frame}
    (hp : p ⟨.indexOutOfRange, frame⟩) (rows : List (List Cell)) (column : Nat)
    (expected : Int64) (is : List Nat) :
    Raises p (constantColumn frame rows column expected is) := by
  induction is with
  | nil => exact raises_ok _
  | cons i is ih =>
      unfold constantColumn
      refine raises_bind (raises_index hp _ _) fun row _ => ?_
      exact raises_bind (raises_index hp _ _) fun cell _ => raises_ite (raises_ok _) ih

theorem raises_nodeHistory {p : Fault Frame → Prop} (hnil : p ⟨.nilDereference, .getNodeMetric⟩)
    (hindex : p ⟨.indexOutOfRange, .getNodeMetric⟩) (config : Config) (node : GrpcNode)
    (outcome : QueryOutcome) : Raises p (nodeHistory config node outcome) := by
  unfold nodeHistory
  refine raises_bind (raises_checkReply hnil _) fun usable _ => ?_
  cases usable with
  | none => exact raises_ok _
  | some response =>
      refine raises_ite (raises_ok _) ?_
      refine raises_bind (raises_firstValues hindex _) fun values _ => ?_
      refine raises_ite (raises_ok _) ?_
      refine raises_bind (raises_constantColumn hindex _ _ _ _) fun passed _ => ?_
      exact raises_ite (raises_ok _) (raises_ok _)

theorem raises_gpuHistory {p : Fault Frame → Prop} (hnil : p ⟨.nilDereference, .getGPUMetrics⟩)
    (hindex : p ⟨.indexOutOfRange, .getGPUMetrics⟩) (config : Config) (gpu : GrpcGPU)
    (entry : Option DegradationGPU) (outcome : QueryOutcome) :
    Raises p (gpuHistory config gpu entry outcome) := by
  unfold gpuHistory
  refine raises_bind (raises_checkReply hnil _) fun usable _ => ?_
  cases usable with
  | none => exact raises_ok _
  | some response =>
      refine raises_ite (raises_ok _) ?_
      refine raises_bind (raises_deref hnil _) fun e _ => ?_
      refine raises_bind (raises_firstValues hindex _) fun values _ => ?_
      refine raises_bind (raises_constantColumn hindex _ _ _ _) fun passed _ => ?_
      exact raises_ite (raises_ok _) (raises_ok _)

theorem raises_podHistory {p : Fault Frame → Prop} (hnil : p ⟨.nilDereference, .getPodMetric⟩)
    (config : Config) (pod : Grpcs.PodMetric) (entry : Option DegradationPod)
    (outcome : QueryOutcome) : Raises p (podHistory config pod entry outcome) := by
  unfold podHistory
  refine raises_bind (raises_checkReply hnil _) fun usable _ => ?_
  cases usable with
  | none => exact raises_ok _
  | some response =>
      refine raises_bind (raises_deref hnil _) fun e _ => ?_
      simp only
      split
      · exact raises_ok _
      · split
        · exact raises_ok _
        · exact raises_ite (raises_ok _) (raises_ok _)

/-- `GetNodeMetric` faults in itself or in its threshold. -/
theorem getNodeMetric_faultsIn {p : Frame → Prop} (hp : p .getNodeMetric)
    (hthreshold : p .nodeThreshold) (config : Config) (c : Client) (node : GrpcNode) :
    FaultsIn p (getNodeMetric config c node) := by
  unfold getNodeMetric
  have hhistory := fun outcome =>
    faultsIn_iff_raises.mpr (raises_nodeHistory hp hp config node outcome)
  refine faultsIn_bind (hhistory _) fun history => ?_
  cases history with
  | none => exact faultsIn_ok _
  | some rows =>
      refine faultsIn_bind (nodeStatistics_faultsIn hp config rows) fun aver => ?_
      exact faultsIn_bind (nodeThreshold_faultsIn hthreshold config aver node) fun ret =>
        faultsIn_ok _

/-! ## No history passes a row check -/

/-- A decoded cell and an `int` differ in their dynamic types, so a check of
at least one row never succeeds. -/
theorem constantColumn_ne_true (frame : Frame) (rows : List (List Cell)) (column : Nat)
    (expected : Int64) (i : Nat) (is : List Nat) :
    constantColumn frame rows column expected (i :: is) ≠ .ok true := by
  intro h
  unfold constantColumn at h
  rcases bind_eq_ok.mp h with ⟨row, -, h⟩
  rcases bind_eq_ok.mp h with ⟨cell, -, h⟩
  rw [if_pos (cell.toInterface_ne_int expected)] at h
  cases h

/-- The first row ends the check. -/
theorem constantColumn_of_lt {frame : Frame} {row : List Cell} {column : Nat}
    (hcolumn : column < row.length) (rows : List (List Cell)) (expected : Int64) (is : List Nat) :
    constantColumn frame (row :: rows) column expected (0 :: is) = .ok false := by
  obtain ⟨cell, hcell⟩ := exists_index_of_lt frame hcolumn
  have hrow : index frame (row :: rows) 0 = .ok row := rfl
  unfold constantColumn
  rw [hrow, ok_bind, hcell, ok_bind, if_pos (cell.toInterface_ne_int expected)]
  rfl

/-- What the node guards let through. -/
theorem nodeHistory_eq_some_iff {config : Config} {node : GrpcNode} {outcome : QueryOutcome}
    {rows : List (List Cell)} :
    nodeHistory config node outcome = .ok (some rows) ↔
      outcome.rows = some rows ∧ ¬config.tooFew rows ∧
        constantColumn .getNodeMetric rows 8 node.totalPodnum config.checkedRows = .ok true := by
  unfold nodeHistory
  constructor
  · intro h
    rcases bind_eq_ok.mp h with ⟨usable, husable, h⟩
    cases usable with
    | none => cases h
    | some response =>
        rw [checkReply_eq_some_iff] at husable
        simp only at h
        split at h
        · cases h
        · rcases bind_eq_ok.mp h with ⟨values, hvalues, h⟩
          split at h
          · cases h
          · rcases bind_eq_ok.mp h with ⟨passed, hpassed, h⟩
            cases passed with
            | false => cases h
            | true =>
                cases h
                exact ⟨(firstValues_iff_rows husable rows).mp hvalues, ‹_›, hpassed⟩
  · rintro ⟨hrows, hfew, hpassed⟩
    obtain ⟨r, husable, hresults, hvalues⟩ :=
      @QueryOutcome.usable_of_rows .getNodeMetric outcome rows hrows
    rw [checkReply_eq_some_iff.mpr husable, ok_bind]
    simp only [if_neg hresults, hvalues, ok_bind, if_neg hfew, hpassed]
    rfl

/-- What the GPU guards let through. -/
theorem gpuHistory_eq_some_iff {config : Config} {gpu : GrpcGPU} {entry : Option DegradationGPU}
    {outcome : QueryOutcome} {rows : List (List Cell)} :
    (∃ entry', gpuHistory config gpu entry outcome = .ok (some rows, entry')) ↔
      entry.isSome ∧ outcome.rows = some rows ∧
        constantColumn .getGPUMetrics rows 6 (podCount gpu) config.checkedRows = .ok true := by
  unfold gpuHistory
  constructor
  · rintro ⟨entry', h⟩
    rcases bind_eq_ok.mp h with ⟨usable, husable, h⟩
    cases usable with
    | none => cases h
    | some response =>
        rw [checkReply_eq_some_iff] at husable
        simp only at h
        split at h
        · cases h
        · rcases bind_eq_ok.mp h with ⟨e, hentry, h⟩
          rcases bind_eq_ok.mp h with ⟨values, hvalues, h⟩
          rcases bind_eq_ok.mp h with ⟨passed, hpassed, h⟩
          cases entry with
          | none => cases hentry
          | some e' =>
              cases passed with
              | false => cases h
              | true =>
                  cases h
                  exact ⟨rfl, (firstValues_iff_rows husable rows).mp hvalues, hpassed⟩
  · rintro ⟨hentry, hrows, hpassed⟩
    obtain ⟨e, rfl⟩ := Option.isSome_iff_exists.mp hentry
    obtain ⟨r, husable, hresults, hvalues⟩ :=
      @QueryOutcome.usable_of_rows .getGPUMetrics outcome rows hrows
    rw [checkReply_eq_some_iff.mpr husable, ok_bind]
    simp only [if_neg hresults, deref_some, hvalues, ok_bind, hpassed]
    exact ⟨_, rfl⟩

/-- What the pod guards let through. -/
theorem podHistory_eq_some_iff {config : Config} {pod : Grpcs.PodMetric}
    {entry : Option DegradationPod} {outcome : QueryOutcome} {rows : List (List Cell)} :
    (∃ entry', podHistory config pod entry outcome = .ok (some rows, entry')) ↔
      entry.isSome ∧ outcome.rows = some rows ∧ ¬config.tooFew rows := by
  unfold podHistory
  constructor
  · rintro ⟨entry', h⟩
    rcases bind_eq_ok.mp h with ⟨usable, husable, h⟩
    cases usable with
    | none => cases h
    | some response =>
        rw [checkReply_eq_some_iff] at husable
        rcases bind_eq_ok.mp h with ⟨e, hentry, h⟩
        cases entry with
        | none => cases hentry
        | some e' =>
            cases hresults : response.results with
            | nil =>
                simp only [deref_some, ok_bind, hresults] at h
                cases h
            | cons result results =>
                cases hseries : result.series with
                | nil =>
                    simp only [deref_some, ok_bind, hresults, hseries] at h
                    cases h
                | cons series rest =>
                    simp only [deref_some, ok_bind, hresults, hseries] at h
                    split at h
                    · cases h
                    · cases h
                      refine ⟨rfl, ?_, ‹_›⟩
                      simp [QueryOutcome.rows, husable, hresults, hseries]
  · rintro ⟨hentry, hrows, hfew⟩
    obtain ⟨e, rfl⟩ := Option.isSome_iff_exists.mp hentry
    obtain ⟨r, husable, -, hvalues⟩ :=
      @QueryOutcome.usable_of_rows .getPodMetric outcome rows hrows
    obtain ⟨result, series, hresult, hseries, hrows⟩ := firstValues_eq_ok.mp hvalues
    subst hrows
    obtain ⟨results, hresults⟩ := List.head?_eq_some_iff.mp hresult
    obtain ⟨rest, hrest⟩ := List.head?_eq_some_iff.mp hseries
    rw [checkReply_eq_some_iff.mpr husable, ok_bind]
    simp only [deref_some, ok_bind, hresults, hrest, if_neg hfew]
    exact ⟨_, rfl⟩

theorem checkedRows_eq_cons {config : Config} (hcount : 1 ≤ config.countNumber) :
    ∃ is, config.checkedRows = 0 :: is := by
  have hpos : (1 : Int) ≤ config.countNumber.toInt := Int64.le_iff_toInt_le.mp hcount
  obtain ⟨n, hn⟩ : ∃ n, config.countNumber.toInt.toNat = n + 1 :=
    ⟨config.countNumber.toInt.toNat - 1, by omega⟩
  unfold Config.checkedRows
  rw [hn, List.range_succ_eq_map]
  exact ⟨_, rfl⟩

theorem nodeHistory_ne_some {config : Config} (hcount : 1 ≤ config.countNumber) (node : GrpcNode)
    (outcome : QueryOutcome) (rows : List (List Cell)) :
    nodeHistory config node outcome ≠ .ok (some rows) := by
  intro h
  obtain ⟨is, his⟩ := checkedRows_eq_cons hcount
  obtain ⟨-, -, hpassed⟩ := nodeHistory_eq_some_iff.mp h
  rw [his] at hpassed
  exact constantColumn_ne_true _ _ _ _ _ _ hpassed

theorem gpuHistory_ne_some {config : Config} (hcount : 1 ≤ config.countNumber) (gpu : GrpcGPU)
    (entry : Option DegradationGPU) (outcome : QueryOutcome) (rows : List (List Cell))
    (entry' : Option DegradationGPU) :
    gpuHistory config gpu entry outcome ≠ .ok (some rows, entry') := by
  intro h
  obtain ⟨is, his⟩ := checkedRows_eq_cons hcount
  obtain ⟨-, -, hpassed⟩ := gpuHistory_eq_some_iff.mp ⟨entry', h⟩
  rw [his] at hpassed
  exact constantColumn_ne_true _ _ _ _ _ _ hpassed

end MetricCollector.Analyzer
