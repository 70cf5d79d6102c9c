import MetricCollector.Analyzer.Threshold
import MetricCollector.Influx

/-!
# The pattern of a pod

`getPodPattern` reads the whole history of a pod into a `Regression`, and
`podThreshold` asks it to confirm a metric that left its interval.  The
function answers `false` whenever it returns.
-/

namespace MetricCollector.Analyzer

open GoLib Grpcs Influx

/-- The body of the collection loop, on one row. -/
def Regression.append (data : Regression) (row : List Cell) : Exec Regression := do
  let averCPU ← index .getPodPattern row 2
  let averGPUMemory ← index .getPodPattern row 3
  let averNetworkRx ← index .getPodPattern row 4
  let averNetworkTx ← index .getPodPattern row 5
  let averMemory ← index .getPodPattern row 6
  let averStorage ← index .getPodPattern row 10
  return {
    cpu := data.cpu ++ [averCPU.parseFloat]
    gpuMemory := data.gpuMemory ++ [averGPUMemory.parseFloat]
    rx := data.rx ++ [averNetworkRx.parseFloat]
    tx := data.tx ++ [averNetworkTx.parseFloat]
    memory := data.memory ++ [averMemory.parseFloat]
    storage := data.storage ++ [averStorage.parseFloat] }

/-- The collection loop from index `i`: `for ; i < 0; i--`.  It terminates
because its condition admits only indices at which the row access faults. -/
def collectRows (rows : List (List Cell)) (i : Int) (data : Regression) : Exec Regression :=
  if _hi : i < 0 then
    match _hrow : indexInt .getPodPattern rows i with
    | .error fault => .error fault
    | .ok row =>
        match data.append row with
        | .error fault => .error fault
        | .ok data => collectRows rows (i - 1) data
  else .ok data
termination_by 0
decreasing_by
  rw [indexInt_of_neg _hi] at _hrow
  cases _hrow

/-- The query of `GetPodPattern`. -/
def podPatternQuery (curr : Grpcs.PodMetric) (uuid : String) : Query where
  command := "select * from podmetric where gpu_mps_pod = '" ++ curr.podName ++
    "' and gpu_mps_pid = " ++ formatInteger curr.podPid.toNat ++ " and UUID = '" ++ uuid ++
    "' order by time desc "
  database := "multimetric"

/-- What `GetPodPattern` makes of the outcome of its query. -/
def patternAnswer (outcome : QueryOutcome) : Exec Bool := do
  match ← checkReply .getPodPattern outcome with
  | none => return false
  | some response =>
      let values ← firstValues .getPodPattern response
      let _ ← collectRows values (values.length - 1) {}
      return false

/-- `GetPodPattern`. -/
def getPodPattern (c : Client) (curr : Grpcs.PodMetric) (uuid : String) :
    Exec (Bool × Client) := do
  let answer ← patternAnswer (c.query (podPatternQuery curr uuid)).1
  return (answer, (c.query (podPatternQuery curr uuid)).2)

/-! ## What the loop does -/

/-- A history with rows is not read at all. -/
theorem collectRows_of_ne_nil {rows : List (List Cell)} (h : rows ≠ []) (data : Regression) :
    collectRows rows (rows.length - 1) data = .ok data := by
  have hpos : 0 < rows.length := List.length_pos_iff.mpr h
  rw [collectRows, dif_neg (by omega)]

/-- A history without rows is read at index `-1`. -/
theorem collectRows_nil (data : Regression) :
    collectRows [] (([] : List (List Cell)).length - 1) data =
      .error ⟨.indexOutOfRange, .getPodPattern⟩ := by
  rw [collectRows, dif_pos (by simp)]
  rfl

/-- A column of the rows, the last row first. -/
def columnHistory (rows : List (List Cell)) (i : Nat) : List ℚ :=
  rows.reverse.map fun row => (row.getD i .null).parseFloat

/-- The record holds every row of the history once, in chronological order. -/
structure Regression.Holds (data : Regression) (rows : List (List Cell)) : Prop where
  cpu : data.cpu = columnHistory rows 2
  gpuMemory : data.gpuMemory = columnHistory rows 3
  rx : data.rx = columnHistory rows 4
  tx : data.tx = columnHistory rows 5
  memory : data.memory = columnHistory rows 6
  storage : data.storage = columnHistory rows 10

/-- The collection loop returns with the whole history. -/
def CollectsHistory (rows : List (List Cell)) : Prop :=
  ∃ data, collectRows rows (rows.length - 1) {} = .ok data ∧ data.Holds rows

/-- It does so on no history: on an empty one it faults, and of any other it
takes nothing. -/
theorem not_collectsHistory (rows : List (List Cell)) : ¬CollectsHistory rows := by
  intro h
  rcases h with ⟨data, hcollect, hholds⟩
  cases rows with
  | nil =>
      rw [collectRows_nil] at hcollect
      cases hcollect
  | cons row rows =>
      rw [collectRows_of_ne_nil (List.cons_ne_nil row rows), Except.ok.injEq] at hcollect
      have hlength := congrArg List.length hholds.cpu
      rw [← hcollect, columnHistory, List.length_map, List.length_reverse] at hlength
      exact absurd hlength (Nat.succ_ne_zero _).symm

/-- A history of one row, of which nothing is taken. -/
theorem collectRows_skips_row :
    collectRows [List.replicate 12 (.number "1")] 0 {} = .ok {} ∧
      columnHistory [List.replicate 12 (.number "1")] 2 = [1] ∧
      ¬CollectsHistory [List.replicate 12 (.number "1")] := by
  have hskip := collectRows_of_ne_nil (List.cons_ne_nil (List.replicate 12 (Cell.number "1")) []) {}
  have hcolumn : columnHistory [List.replicate 12 (.number "1")] 2 = [1] := by decide +kernel
  refine ⟨hskip, hcolumn, ?_⟩
  intro h
  rcases h with ⟨data, hcollect, hholds⟩
  obtain rfl := Except.ok.inj (hskip.symm.trans hcollect)
  have hcpu := hholds.cpu
  rw [hcolumn] at hcpu
  cases hcpu

/-! ## The threshold of a pod -/

/-- `confidencenum * stDev / math.Sqrt(float64(*CountNumber))`. -/
def Config.margin (config : Config) (stDev : ℚ) : ℚ :=
  config.confidencenum * stDev / config.sqrtCount

/-- The verdict on a metric that the pattern has to confirm. -/
def patternVerdict (c : Client) (curr : Grpcs.PodMetric) (uuid : String) :
    Exec (Int64 × Client) := do
  let (confirmed, c) ← getPodPattern c curr uuid
  return (if confirmed then 0 else 1, c)

/-- `PodThreshold`.  The branches whose `GetTrands` result the source drops
only return. -/
def podThreshold (config : Config) (aver : PodMetric) (curr : Grpcs.PodMetric) (c : Client)
    (uuid : String) : Exec (Int64 × Client) :=
  if aver.averCPU - config.margin aver.stDevCPU < curr.podCPU then
    if getTrands aver.cpuList aver.averCPU then patternVerdict c curr uuid
    else .ok (1, c)
  else if curr.podCPU < aver.averCPU + config.margin aver.stDevCPU then .ok (1, c)
  else if float64 aver.averGPUMemory - config.margin aver.stDevGPUMemory <
      float64 curr.podGPUMemory then patternVerdict c curr uuid
  else if float64 curr.podGPUMemory <
      float64 aver.averGPUMemory + config.margin aver.stDevGPUMemory then .ok (1, c)
  else if float64 aver.averMemory - config.margin aver.stDevMemory <
      float64 curr.podMemory then patternVerdict c curr uuid
  else if float64 curr.podMemory <
      float64 aver.averMemory + config.margin aver.stDevMemory then .ok (1, c)
  else if float64 aver.averNetworkRx - config.margin aver.stDevNetworkRx <
      float64 curr.podNetworkRX then patternVerdict c curr uuid
  else if float64 curr.podNetworkRX <
      float64 aver.averNetworkRx + config.margin aver.stDevNetworkRx then .ok (1, c)
  else if float64 aver.averNetworkTx - config.margin aver.stDevNetworkTx <
      float64 curr.podNetworkTX then patternVerdict c curr uuid
  else if float64 curr.podNetworkTX <
      float64 aver.averNetworkTx + config.margin aver.stDevNetworkTx then .ok (1, c)
  else if float64 aver.averStorage - config.margin aver.stDevStorage <
      float64 curr.podStorage then patternVerdict c curr uuid
  else if float64 curr.podStorage <
      float64 aver.averStorage + config.margin aver.stDevStorage then .ok (1, c)
  else .ok (1, c)

/-! ## How they end -/

/-- The pattern test returns when its query got a response, and the rows are
there and not empty unless the reply reports an error. -/
theorem patternAnswer_returns_iff (outcome : QueryOutcome) :
    patternAnswer outcome = .ok false ↔
      outcome.response.isSome ∧
        ∀ r, outcome.usable = some r → ∃ row rows, outcome.rows = some (row :: rows) := by
  unfold patternAnswer
  rcases checkReply_cases .getPodPattern outcome with
    ⟨hnone, hreply⟩ | ⟨hsome, husable, hreply⟩ | ⟨response, hsome, husable, hreply⟩
  · simp [hreply, hnone]
  · simp [hreply, hsome, husable]
  · have hrows := fun rows => @firstValues_iff_rows .getPodPattern _ _ husable rows
    rw [hreply, ok_bind, husable]
    constructor
    · intro h
      rcases bind_eq_ok.mp h with ⟨values, hvalues, h⟩
      cases values with
      | nil =>
          rw [collectRows_nil] at h
          cases h
      | cons row rows => exact ⟨hsome, fun _ _ => ⟨row, rows, (hrows _).mp hvalues⟩⟩
    · intro h
      obtain ⟨row, rows, hvalues⟩ := h.2 response rfl
      show (firstValues .getPodPattern response >>= _) = _
      rw [(hrows _).mpr hvalues, ok_bind, collectRows_of_ne_nil (List.cons_ne_nil row rows),
        ok_bind]
      rfl

section Raises

variable {p : Fault Frame → Prop} (hnil : p ⟨.nilDereference, .getPodPattern⟩)
  (hindex : p ⟨.indexOutOfRange, .getPodPattern⟩)

include hindex in
theorem raises_collectRows (rows : List (List Cell)) (data : Regression) :
    Raises p (collectRows rows (rows.length - 1) data) := by
  cases rows with
  | nil =>
      rw [collectRows_nil]
      exact raises_error hindex
  | cons row rows =>
      rw [collectRows_of_ne_nil (List.cons_ne_nil row rows)]
      exact raises_ok _

include hnil hindex

theorem raises_patternAnswer (outcome : QueryOutcome) : Raises p (patternAnswer outcome) := by
  unfold patternAnswer
  refine raises_bind (raises_checkReply hnil _) ?_
  intro usable _
  cases usable with
  | none => exact raises_ok _
  | some response =>
      refine raises_bind (raises_firstValues hindex _) ?_
      intro values _
      refine raises_bind (raises_collectRows hindex values {}) ?_
      intro data _
      exact raises_ok _

theorem raises_patternVerdict (c : Client) (curr : Grpcs.PodMetric) (uuid : String) :
    Raises p (patternVerdict c curr uuid) := by
  unfold patternVerdict getPodPattern
  apply raises_bind
  · apply raises_bind (raises_patternAnswer hnil hindex _)
    intro answer _
    exact raises_ok _
  · intro ret _
    exact raises_ok _

/-- The threshold of a pod faults only inside the pattern test. -/
theorem raises_podThreshold (config : Config) (aver : PodMetric) (curr : Grpcs.PodMetric)
    (c : Client) (uuid : String) : Raises p (podThreshold config aver curr c uuid) := by
  have hpattern := raises_patternVerdict hnil hindex c curr uuid
  have hok : Raises p (.ok (1, c) : Exec (Int64 × Client)) := raises_ok _
  unfold podThreshold
  refine raises_ite (raises_ite hpattern hok) (raises_ite hok ?_)
  repeat' first | exact hpattern | exact hok | apply raises_ite

end Raises

end MetricCollector.Analyzer
