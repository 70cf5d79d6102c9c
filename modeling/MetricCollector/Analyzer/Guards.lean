import MetricCollector.Analyzer.History

/-!
# Which replies the handlers survive

A reply can fail at four places: no response at all, an error in it, a missing
result, series or row.  Every handler follows the response pointer in its
error branch, and past that each guards a different part of the shape.

The `Readable` predicates say which outcomes a handler gets through, and
`handlers_safe_iff` that these are exactly the ones on which it keeps its
contract: no fault, and `2` or `false` when there is too little data.
`rowCheck_exact_iff` is about the replies that do carry enough rows.
-/

namespace MetricCollector.Analyzer

open GoLib Grpcs Influx

/-! ## Readable outcomes -/

/-- Every row of the reply has at least `n` cells. -/
def RowsHave (n : Nat) (outcome : QueryOutcome) : Prop :=
  ∀ rows, outcome.rows = some rows → ∀ row ∈ rows, n ≤ row.length

/-- The reply has as many rows as `CountNumber` asks for. -/
def Sufficient (config : Config) (outcome : QueryOutcome) : Prop :=
  ∃ rows, outcome.rows = some rows ∧ ¬config.tooFew rows

/-- `GetNodeMetric` follows the response and, past the results guard, the series. -/
def NodeReadable (outcome : QueryOutcome) : Prop :=
  outcome.response.isSome ∧
    ∀ r, outcome.usable = some r → r.results ≠ [] → ∃ rows, outcome.rows = some rows

/-- `GetGPUMetrics` also reads a row. -/
def GPUReadable (outcome : QueryOutcome) : Prop :=
  outcome.response.isSome ∧
    ∀ r, outcome.usable = some r → r.results ≠ [] →
      ∃ row rows, outcome.rows = some (row :: rows)

/-- `GetPodPattern` has no guard past the error check. -/
def PatternReadable (outcome : QueryOutcome) : Prop :=
  outcome.response.isSome ∧
    ∀ r, outcome.usable = some r → ∃ row rows, outcome.rows = some (row :: rows)

theorem nodeHistory_returns_iff {config : Config} (hcount : 1 ≤ config.countNumber)
    (node : GrpcNode) {outcome : QueryOutcome} (hwide : RowsHave 9 outcome) :
    nodeHistory config node outcome = .ok none ↔ NodeReadable outcome := by
  obtain ⟨is, his⟩ := checkedRows_eq_cons hcount
  have hpos : (1 : Int) ≤ config.countNumber.toInt := Int64.le_iff_toInt_le.mp hcount
  unfold nodeHistory NodeReadable
  rcases checkReply_cases .getNodeMetric outcome with
    ⟨hnone, hreply⟩ | ⟨hsome, husable, hreply⟩ | ⟨response, hsome, husable, hreply⟩
  · simp [hreply, hnone]
  · simp [hreply, hsome, husable]
  · have hrows := fun rows => @firstValues_iff_rows .getNodeMetric _ _ husable rows
    rw [hreply, ok_bind, husable]
    by_cases hresults : response.results = []
    · simp [hresults, hsome]
    · simp only [hresults, if_false]
      constructor
      · intro h
        rcases bind_eq_ok.mp h with ⟨values, hvalues, -⟩
        exact ⟨hsome, fun _ _ _ => ⟨values, (hrows values).mp hvalues⟩⟩
      · rintro ⟨-, h⟩
        obtain ⟨values, hvalues⟩ := h response rfl hresults
        rw [(hrows values).mpr hvalues, ok_bind]
        by_cases hfew : config.tooFew values
        · rw [if_pos hfew]
          rfl
        · rw [if_neg hfew, his]
          cases values with
          | nil =>
              unfold Config.tooFew at hfew
              simp at hfew
              omega
          | cons row rows =>
              have hrow : 8 < row.length := hwide _ hvalues row (by simp)
              rw [constantColumn_of_lt hrow, ok_bind]
              rfl

theorem gpuHistory_returns_iff {config : Config} (hcount : 1 ≤ config.countNumber)
    (gpu : GrpcGPU) (e : DegradationGPU) {outcome : QueryOutcome} (hwide : RowsHave 14 outcome) :
    (∃ entry', gpuHistory config gpu (some e) outcome = .ok (none, entry')) ↔
      GPUReadable outcome := by
  obtain ⟨is, his⟩ := checkedRows_eq_cons hcount
  unfold gpuHistory GPUReadable
  rcases checkReply_cases .getGPUMetrics outcome with
    ⟨hnone, hreply⟩ | ⟨hsome, husable, hreply⟩ | ⟨response, hsome, husable, hreply⟩
  · simp [hreply, hnone]
  · simp [hreply, hsome, husable]
  · have hrows := fun rows => @firstValues_iff_rows .getGPUMetrics _ _ husable rows
    rw [hreply, ok_bind, husable]
    by_cases hresults : response.results = []
    · simp [hresults, hsome]
    · simp only [hresults, if_false, deref_some, ok_bind]
      constructor
      · rintro ⟨entry', h⟩
        rcases bind_eq_ok.mp h with ⟨values, hvalues, h⟩
        rcases bind_eq_ok.mp h with ⟨passed, hpassed, -⟩
        cases values with
        | nil =>
            rw [his] at hpassed
            cases hpassed
        | cons row rows =>
            exact ⟨hsome, fun _ _ _ => ⟨row, rows, (hrows _).mp hvalues⟩⟩
      · rintro ⟨-, h⟩
        obtain ⟨row, rows, hvalues⟩ := h response rfl hresults
        have hrow : 6 < row.length := by
          have := hwide _ hvalues row (by simp)
          omega
        rw [(hrows _).mpr hvalues, ok_bind, his, constantColumn_of_lt hrow, ok_bind]
        exact ⟨_, rfl⟩

/-- `GetPodMetric` guards everything but the response itself. -/
theorem podHistory_of_answered (config : Config) (pod : Grpcs.PodMetric) (e : DegradationPod)
    (r : Response) (err : Option String) :
    ∃ history entry', podHistory config pod (some e) (.answered r err) = .ok (history, entry') ∧
      ∀ rows, history = some rows ↔
        (QueryOutcome.answered r err).rows = some rows ∧ ¬config.tooFew rows := by
  unfold podHistory
  rw [checkReply_of_answered, ok_bind]
  cases husable : (QueryOutcome.answered r err).usable with
  | none => exact ⟨none, some e, rfl, by simp [QueryOutcome.rows, husable]⟩
  | some response =>
      simp only [deref_some, ok_bind]
      cases hresults : response.results with
      | nil => exact ⟨none, _, rfl, by simp [QueryOutcome.rows, husable, hresults]⟩
      | cons result results =>
          cases hseries : result.series with
          | nil =>
              refine ⟨none, some { e with podUID := pod.podUid }, ?_, ?_⟩
              · simp [hseries]
              · simp [QueryOutcome.rows, husable, hresults, hseries]
          | cons series rest =>
              by_cases hfew : config.tooFew series.values
              · refine ⟨none, some { e with podUID := pod.podUid }, ?_, ?_⟩
                · simp [hseries, hfew]
                · intro rows
                  simp [QueryOutcome.rows, husable, hresults, hseries]
                  rintro rfl
                  exact hfew
              · refine ⟨some series.values, some { e with podUID := pod.podUid }, ?_, ?_⟩
                · simp [hseries, hfew]
                · intro rows
                  simp [QueryOutcome.rows, husable, hresults, hseries]
                  rintro rfl
                  exact hfew

/-! ## The handlers' contract -/

/-- `GetNodeMetric` returns, and `2` when there is too little data. -/
def NodeSafe (config : Config) (c : Client) (node : GrpcNode) : Prop :=
  ∃ ret c', getNodeMetric config c node = .ok (ret, c') ∧
    (¬Sufficient config (c.query (nodeQuery config node)).1 → ret = 2)

/-- `GetGPUMetrics` returns, and `2` when there is too little data. -/
def GPUSafe (config : Config) (c : Client) (gpu : GrpcGPU) (e : DegradationGPU) : Prop :=
  ∃ ret entry' c', getGPUMetrics config c gpu (some e) = .ok (ret, entry', c') ∧
    (¬Sufficient config (c.query (gpuQuery config gpu)).1 → ret = 2)

/-- `GetPodMetric` raises no fault of its own, and returns `2` when there is
too little data.  With enough data it calls `GetPodPattern`, whose faults are
not its own. -/
def PodSafe (config : Config) (c : Client) (pod : Grpcs.PodMetric) (uuid : String)
    (e : DegradationPod) : Prop :=
  (∀ fault, getPodMetric config c pod uuid (some e) = .error fault →
      fault.frame ≠ .getPodMetric) ∧
    (¬Sufficient config (c.query (podQuery config pod uuid)).1 →
      ∃ entry' c', getPodMetric config c pod uuid (some e) = .ok (2, entry', c'))

/-- `GetPodPattern` returns `false`. -/
def PatternSafe (c : Client) (pod : Grpcs.PodMetric) (uuid : String) : Prop :=
  ∃ c', getPodPattern c pod uuid = .ok (false, c')

theorem nodeSafe_iff {config : Config} (hcount : 1 ≤ config.countNumber) (c : Client)
    (node : GrpcNode) (hwide : RowsHave 9 (c.query (nodeQuery config node)).1) :
    NodeSafe config c node ↔ NodeReadable (c.query (nodeQuery config node)).1 := by
  rw [← nodeHistory_returns_iff hcount node hwide]
  unfold NodeSafe getNodeMetric
  constructor
  · rintro ⟨ret, c', h, -⟩
    rcases bind_eq_ok.mp h with ⟨history, hhistory, -⟩
    cases history with
    | none => exact hhistory
    | some rows => exact absurd hhistory (nodeHistory_ne_some hcount node _ rows)
  · intro h
    rw [h, ok_bind]
    exact ⟨2, _, rfl, fun _ => rfl⟩

theorem gpuSafe_iff {config : Config} (hcount : 1 ≤ config.countNumber) (c : Client)
    (gpu : GrpcGPU) (e : DegradationGPU) (hwide : RowsHave 14 (c.query (gpuQuery config gpu)).1) :
    GPUSafe config c gpu e ↔ GPUReadable (c.query (gpuQuery config gpu)).1 := by
  rw [← gpuHistory_returns_iff hcount gpu e hwide]
  unfold GPUSafe getGPUMetrics
  constructor
  · rintro ⟨ret, entry', c', h, -⟩
    rcases bind_eq_ok.mp h with ⟨⟨history, entry''⟩, hhistory, -⟩
    cases history with
    | none => exact ⟨entry'', hhistory⟩
    | some rows => exact absurd hhistory (gpuHistory_ne_some hcount gpu _ _ rows entry'')
  · rintro ⟨entry', h⟩
    rw [h, ok_bind]
    exact ⟨2, entry', _, rfl, fun _ => rfl⟩

theorem podSafe_iff {config : Config} (hcount : 1 ≤ config.countNumber) (c : Client)
    (pod : Grpcs.PodMetric) (uuid : String) (e : DegradationPod)
    (hwide : RowsHave 11 (c.query (podQuery config pod uuid)).1) :
    PodSafe config c pod uuid e ↔ (c.query (podQuery config pod uuid)).1.response.isSome := by
  have hne : config.countNumber ≠ 0 := by
    rintro heq
    rw [heq] at hcount
    exact absurd hcount (by decide)
  unfold PodSafe getPodMetric
  cases hreply : (c.query (podQuery config pod uuid)).1 with
  | failed err =>
      have hfault : podHistory config pod (some e) (.failed err) =
          .error ⟨.nilDereference, .getPodMetric⟩ := rfl
      simp [hfault, QueryOutcome.response]
  | answered r err =>
      obtain ⟨history, entry', hhistory, hrows⟩ := podHistory_of_answered config pod e r err
      rw [hreply] at hwide
      simp only [hhistory, ok_bind, QueryOutcome.response, Option.isSome_some, iff_true]
      cases history with
      | none =>
          refine ⟨?_, fun _ => ⟨entry', _, rfl⟩⟩
          intro fault h
          cases h
      | some rows =>
          obtain ⟨hread, hfew⟩ := (hrows rows).mp rfl
          have hreads : Reads podSample rows :=
            fun row hrow => exists_podSample (hwide rows hread row hrow)
          obtain ⟨aver, haver⟩ := exists_podStatistics hne hreads
          refine ⟨?_, fun hnot => absurd ⟨rows, hread, hfew⟩ hnot⟩
          intro fault h
          simp only [haver, ok_bind] at h
          have hframe : fault.frame = .getPodPattern := by
            have hthreshold : ∀ c, FaultsIn (· = .getPodPattern)
                (podThreshold config aver pod c uuid) :=
              fun c => @raises_podThreshold (fun fault => fault.frame = .getPodPattern) rfl rfl
                config aver pod c uuid
            refine faultsIn_bind (hthreshold _) ?_ fault h
            rintro ⟨ret, c'⟩
            exact faultsIn_ok _
          rw [hframe]
          decide

theorem patternSafe_iff (c : Client) (pod : Grpcs.PodMetric) (uuid : String) :
    PatternSafe c pod uuid ↔ PatternReadable (c.query (podPatternQuery pod uuid)).1 := by
  unfold PatternSafe PatternReadable getPodPattern
  rw [← patternAnswer_returns_iff]
  constructor
  · intro h
    rcases h with ⟨c', h⟩
    rcases bind_eq_ok.mp h with ⟨answer, hanswer, h⟩
    cases h
    exact hanswer
  · intro h
    rw [h, ok_bind]
    exact ⟨_, rfl⟩

/-- Each handler keeps its contract on exactly the replies it is written for. -/
theorem handlers_safe_iff {config : Config} (hcount : 1 ≤ config.countNumber) (c : Client)
    (node : GrpcNode) (gpu : GrpcGPU) (pod : Grpcs.PodMetric) (uuid : String)
    (gpuEntry : DegradationGPU) (podEntry : DegradationPod)
    (hnode : RowsHave 9 (c.query (nodeQuery config node)).1)
    (hgpu : RowsHave 14 (c.query (gpuQuery config gpu)).1)
    (hpod : RowsHave 11 (c.query (podQuery config pod uuid)).1) :
    (NodeSafe config c node ↔ NodeReadable (c.query (nodeQuery config node)).1) ∧
    (GPUSafe config c gpu gpuEntry ↔ GPUReadable (c.query (gpuQuery config gpu)).1) ∧
    (PodSafe config c pod uuid podEntry ↔
      (c.query (podQuery config pod uuid)).1.response.isSome) ∧
    (PatternSafe c pod uuid ↔ PatternReadable (c.query (podPatternQuery pod uuid)).1) :=
  ⟨nodeSafe_iff hcount c node hnode, gpuSafe_iff hcount c gpu gpuEntry hgpu,
    podSafe_iff hcount c pod uuid podEntry hpod, patternSafe_iff c pod uuid⟩

/-- Ask for one row; the square root of one is one. -/
def oneRow : Config where
  countNumber := 1
  sqrt q := q

/-- A client whose database answers every query with these rows. -/
def clientOf (rows : List (List Cell)) : Client where
  reply _ _ := .answered { results := [{ series := [{ values := rows }] }] } none

/-- On a reply of one row every handler keeps its contract. -/
theorem handlers_safe_on_one_row :
    NodeSafe oneRow (clientOf [List.replicate 14 .null]) {} ∧
      GPUSafe oneRow (clientOf [List.replicate 14 .null]) {} {} ∧
      PodSafe oneRow (clientOf [List.replicate 14 .null]) {} "GPU-0" {} ∧
      PatternSafe (clientOf [List.replicate 14 .null]) {} "GPU-0" := by
  have hwide : ∀ n ≤ 14, ∀ q, RowsHave n ((clientOf [List.replicate 14 .null]).query q).1 := by
    intro n hn q rows hrows row hrow
    cases hrows
    rw [List.mem_singleton] at hrow
    rw [hrow, List.length_replicate]
    exact hn
  obtain ⟨hnode, hgpu, hpod, hpattern⟩ := handlers_safe_iff
    (show 1 ≤ oneRow.countNumber by decide) (clientOf [List.replicate 14 .null]) {} {} {} "GPU-0"
    {} {} (hwide 9 (by decide) _) (hwide 14 (by decide) _) (hwide 11 (by decide) _)
  exact ⟨hnode.mpr ⟨rfl, fun _ _ _ => ⟨_, rfl⟩⟩, hgpu.mpr ⟨rfl, fun _ _ _ => ⟨_, _, rfl⟩⟩,
    hpod.mpr rfl, hpattern.mpr ⟨rfl, fun _ _ => ⟨_, _, rfl⟩⟩⟩

/-- A client whose server cannot be reached. -/
def unreachable : Client where
  reply _ _ := .failed "connection refused"

/-- Without a response no handler keeps its contract. -/
theorem handlers_fault_unreachable :
    ¬NodeSafe oneRow unreachable {} ∧ ¬GPUSafe oneRow unreachable {} {} ∧
      ¬PodSafe oneRow unreachable {} "GPU-0" {} ∧ ¬PatternSafe unreachable {} "GPU-0" := by
  refine ⟨?_, ?_, ?_, ?_⟩
  · intro h
    rcases h with ⟨ret, c', h, -⟩
    cases h
  · intro h
    rcases h with ⟨ret, entry', c', h, -⟩
    cases h
  · intro h
    exact h.1 ⟨.nilDereference, .getPodMetric⟩ rfl rfl
  · intro h
    rcases h with ⟨c', h⟩
    cases h

/-! ## The constant pod count -/

/-- The cell of the reply at a row and a column is this number. -/
def HoldsNumber (outcome : QueryOutcome) (column i : Nat) (n : ℚ) : Prop :=
  ∃ rows row cell, outcome.rows = some rows ∧ rows[i]? = some row ∧ row[column]? = some cell ∧
    cell.value = some n

/-- `GetNodeMetric` gets past its row check. -/
def NodePasses (config : Config) (node : GrpcNode) (outcome : QueryOutcome) : Prop :=
  ∃ rows, nodeHistory config node outcome = .ok (some rows)

/-- `GetGPUMetrics` gets past its row check. -/
def GPUPasses (config : Config) (gpu : GrpcGPU) (e : DegradationGPU) (outcome : QueryOutcome) :
    Prop :=
  ∃ rows entry', gpuHistory config gpu (some e) outcome = .ok (some rows, entry')

/-- Every checked row of a node history holds the node's pod total. -/
def NodeCountConstant (config : Config) (node : GrpcNode) (outcome : QueryOutcome) : Prop :=
  ∀ i ∈ config.checkedRows, HoldsNumber outcome 8 i node.totalPodnum.toInt

/-- Every checked row of a GPU history holds the GPU's number of pods. -/
def GPUCountConstant (config : Config) (gpu : GrpcGPU) (outcome : QueryOutcome) : Prop :=
  ∀ i ∈ config.checkedRows, HoldsNumber outcome 6 i gpu.gpuPod.length

/-- The row checks are right about a history exactly when it has a row to stop
at: they stop every history. -/
theorem rowCheck_exact_iff {config : Config} (hcount : 1 ≤ config.countNumber)
    (node : GrpcNode) (gpu : GrpcGPU) (e : DegradationGPU) (nodeReply gpuReply : QueryOutcome) :
    ((NodePasses config node nodeReply ↔ NodeCountConstant config node nodeReply) ↔
      ∃ i ∈ config.checkedRows, ¬HoldsNumber nodeReply 8 i node.totalPodnum.toInt) ∧
    ((GPUPasses config gpu e gpuReply ↔ GPUCountConstant config gpu gpuReply) ↔
      ∃ i ∈ config.checkedRows, ¬HoldsNumber gpuReply 6 i gpu.gpuPod.length) := by
  have hnode : ¬NodePasses config node nodeReply := by
    intro h
    rcases h with ⟨rows, h⟩
    exact nodeHistory_ne_some hcount node nodeReply rows h
  have hgpu : ¬GPUPasses config gpu e gpuReply := by
    intro h
    rcases h with ⟨rows, entry', h⟩
    exact gpuHistory_ne_some hcount gpu (some e) gpuReply rows entry' h
  unfold NodeCountConstant GPUCountConstant
  constructor
  · simp [hnode]
  · simp [hgpu]

/-- A reply of one row that holds the number two everywhere. -/
def twoEverywhere : QueryOutcome :=
  .answered { results := [{ series := [{ values := [List.replicate 14 (.number "2")] }] }] } none

/-- A history of one row with another pod count is stopped, as it should be. -/
theorem rowCheck_exact_on_changed_count :
    (NodePasses oneRow { totalPodnum := 3 } twoEverywhere ↔
      NodeCountConstant oneRow { totalPodnum := 3 } twoEverywhere) ∧
    (GPUPasses oneRow {} {} twoEverywhere ↔ GPUCountConstant oneRow {} twoEverywhere) := by
  have hchanged : ∀ column n, n ≠ 2 → ¬HoldsNumber twoEverywhere column 0 n := by
    intro column n hn h
    rcases h with ⟨rows, row, cell, hrows, hrow, hcell, hvalue⟩
    cases hrows
    cases hrow
    rw [List.eq_of_mem_replicate (List.mem_of_getElem? hcell)] at hvalue
    have htwo : (Cell.number "2").value = some 2 := by decide +kernel
    rw [htwo] at hvalue
    exact hn (Option.some.inj hvalue).symm
  obtain ⟨hnode, hgpu⟩ := rowCheck_exact_iff (show 1 ≤ oneRow.countNumber by decide)
    { totalPodnum := 3 } {} {} twoEverywhere twoEverywhere
  exact ⟨hnode.mpr ⟨0, by decide, hchanged 8 _ (by decide +kernel)⟩,
    hgpu.mpr ⟨0, by decide, hchanged 6 _ (by decide +kernel)⟩⟩

/-- A history of one row with the node's own pod total is stopped too. -/
theorem rowCheck_stops_constant_count :
    (NodeCountConstant oneRow { totalPodnum := 2 } twoEverywhere ∧
      ¬NodePasses oneRow { totalPodnum := 2 } twoEverywhere) ∧
    (GPUCountConstant oneRow { gpuPod := [{}, {}] } twoEverywhere ∧
      ¬GPUPasses oneRow { gpuPod := [{}, {}] } {} twoEverywhere) := by
  have hchecked : oneRow.checkedRows = [0] := by decide
  have hholds : ∀ column < 14, HoldsNumber twoEverywhere column 0 2 := by
    intro column hcolumn
    refine ⟨_, _, .number "2", rfl, rfl, ?_, by decide +kernel⟩
    rw [List.getElem?_replicate, if_pos hcolumn]
  refine ⟨⟨?_, ?_⟩, ?_, ?_⟩
  · intro i hi
    rw [hchecked, List.mem_singleton] at hi
    subst hi
    exact hholds 8 (by decide)
  · intro h
    rcases h with ⟨rows, h⟩
    cases h
  · intro i hi
    rw [hchecked, List.mem_singleton] at hi
    subst hi
    exact hholds 6 (by decide)
  · intro h
    rcases h with ⟨rows, entry', h⟩
    cases h

end MetricCollector.Analyzer
