import MetricCollector.Analyzer.Guards
import MetricCollector.Analyzer.Readings

/-!
# The divisors

The handlers divide by `CountNumber`, by `CountNumber - 1` and by the square
root of `CountNumber`, and nothing checks the flag.  An integer division by zero
ends the process.  A division of floats goes on with no number, so a divisor of
this kind is compared with zero where the code gets to it.

* `nodeDivisors_iff`, `gpuDivisors_iff` and `podDivisors_iff` say for which
  flags and replies a handler divides by zero.
* `nodeThreshold_divisors_iff` and its siblings say so of the thresholds on
  their own, and `divisors_iff` puts all of them together.
-/

namespace MetricCollector.Analyzer

open GoLib Grpcs Influx

/-- No integer is divided by zero. -/
def NoZeroDivisor {α : Type} (run : Exec α) : Prop :=
  Raises (fun fault => fault.kind ≠ .divideByZero) run

/-- What is known of `math.Sqrt`. -/
structure Config.Roots (config : Config) : Prop where
  zero : config.sqrt 0 = 0
  one_le : ∀ q, 1 ≤ q → 1 ≤ config.sqrt q

/-- A reply to a query with `limit CountNumber`.  A limit of zero is none, and a
negative one is an error of the query. -/
def Limited (config : Config) (outcome : QueryOutcome) : Prop :=
  ∀ rows, outcome.rows = some rows →
    config.countNumber = 0 ∨ (rows.length : Int) ≤ config.countNumber.toInt

/-- No division of `GetNodeMetric` has a zero divisor. -/
structure NodeDivisors (config : Config) (c : Client) (node : GrpcNode) : Prop where
  integers : NoZeroDivisor (getNodeMetric config c node)
  degrees : ∀ rows aver,
    nodeHistory config node (c.query (nodeQuery config node)).1 = .ok (some rows) →
      nodeStatistics config rows = .ok aver → config.degrees ≠ 0

/-- No division of `GetGPUMetrics` has a zero divisor. -/
structure GPUDivisors (config : Config) (c : Client) (gpu : GrpcGPU)
    (entry : Option DegradationGPU) : Prop where
  integers : NoZeroDivisor (getGPUMetrics config c gpu entry)
  degrees : ∀ rows entry' aver,
    gpuHistory config gpu entry (c.query (gpuQuery config gpu)).1 = .ok (some rows, entry') →
      gpuStatistics config rows = .ok aver → config.degrees ≠ 0

/-- No division of `GetPodMetric` has a zero divisor: the average of the CPU is
divided after the first pass, the deviations are after the second, and
`PodThreshold` divides in its first test. -/
structure PodDivisors (config : Config) (c : Client) (pod : Grpcs.PodMetric) (uuid : String)
    (entry : Option DegradationPod) : Prop where
  integers : NoZeroDivisor (getPodMetric config c pod uuid entry)
  count : ∀ rows entry' sums,
    podHistory config pod entry (c.query (podQuery config pod uuid)).1 = .ok (some rows, entry') →
      overRows podSample PodMetric.add rows {} = .ok sums → float64 config.countNumber ≠ 0
  degrees : ∀ rows entry' aver,
    podHistory config pod entry (c.query (podQuery config pod uuid)).1 = .ok (some rows, entry') →
      podStatistics config rows = .ok aver → config.degrees ≠ 0
  root : ∀ rows entry' aver,
    podHistory config pod entry (c.query (podQuery config pod uuid)).1 = .ok (some rows, entry') →
      podStatistics config rows = .ok aver → config.sqrtCount ≠ 0

/-! ## The divisors -/

section Divisors

variable {config : Config}

theorem float64_count_ne_zero (h : config.countNumber ≠ 0) : float64 config.countNumber ≠ 0 := by
  unfold float64
  intro hzero
  have hint : config.countNumber.toInt = 0 := by exact_mod_cast hzero
  exact h (Int64.toInt_inj.mp hint)

theorem degrees_ne_zero (h : config.countNumber ≠ 1) : config.degrees ≠ 0 := by
  unfold Config.degrees float64
  intro hzero
  have hint : config.countNumber.toInt = 1 := by exact_mod_cast sub_eq_zero.mp hzero
  exact h (Int64.toInt_inj.mp hint)

theorem one_le_toInt (hnonneg : 0 ≤ config.countNumber) (h : config.countNumber ≠ 0) :
    1 ≤ config.countNumber.toInt := by
  have hle : 0 ≤ config.countNumber.toInt := Int64.le_iff_toInt_le.mp hnonneg
  have hne : config.countNumber.toInt ≠ 0 := fun hzero => h (Int64.toInt_inj.mp hzero)
  omega

theorem one_le_sqrtCount (hroots : config.Roots) (hnonneg : 0 ≤ config.countNumber)
    (h : config.countNumber ≠ 0) : 1 ≤ config.sqrtCount := by
  apply hroots.one_le
  exact_mod_cast one_le_toInt hnonneg h

theorem sqrtCount_of_zero (hroots : config.Roots) (h : config.countNumber = 0) :
    config.sqrtCount = 0 := by
  unfold Config.sqrtCount
  rw [h]
  exact hroots.zero

/-- The truncation of a number that is not below one is not zero. -/
theorem truncInt64_ne_zero {q : ℚ} (h : 1 ≤ q) : truncInt64 q ≠ 0 := by
  have hfloor : 1 ≤ q.floor := Rat.le_floor_iff.mpr (by exact_mod_cast h)
  unfold truncInt64
  rw [if_pos (le_trans zero_le_one h)]
  simp only
  split_ifs with hfits
  · intro hzero
    have hvalue := Int64.toInt_ofInt_of_le hfits.1 hfits.2
    rw [hzero] at hvalue
    rw [← hvalue] at hfloor
    exact absurd hfloor (by decide)
  · decide

/-- A flag whose query can have rows is not negative. -/
theorem Limited.nonneg {outcome : QueryOutcome} (h : Limited config outcome)
    {rows : List (List Cell)} (hrows : outcome.rows = some rows) : 0 ≤ config.countNumber := by
  rcases h rows hrows with hzero | hlength
  · rw [hzero]
    decide
  · exact Int64.le_iff_toInt_le.mpr (le_trans (Int.natCast_nonneg _) hlength)

end Divisors

/-! ## The passes -/

section Passes

variable {A S B : Type} {sample : List Cell → Exec S} {body : A → S → A}
  {rows : List (List Cell)} {aver : A}

/-- With a row that cannot be read nothing follows a pass. -/
theorem pass_ne_ok (hreads : ¬Reads sample rows) (next : A → Exec B) (b : B) :
    (overRows sample body rows aver >>= next) ≠ .ok b := by
  intro h
  rcases bind_eq_ok.mp h with ⟨sums, hsums, -⟩
  exact hreads (reads_of_overRows hsums)

/-- What follows a pass has readable rows. -/
theorem raises_pass {p : Fault Frame → Prop} (hsample : ∀ row, Raises p (sample row))
    {next : A → Exec B} (hnext : Reads sample rows → ∀ sums, Raises p (next sums)) :
    Raises p (overRows sample body rows aver >>= next) :=
  raises_bind (raises_overRows hsample _ _ _) fun sums hsums =>
    hnext (reads_of_overRows hsums) sums

end Passes

theorem nodeAverage_of_zero {config : Config} (h : config.countNumber = 0) (aver : NodeMetric) :
    aver.average config = .error ⟨.divideByZero, .getNodeMetric⟩ := by
  unfold NodeMetric.average divInt64
  rw [if_pos h]
  rfl

theorem gpuAverage_of_zero {config : Config} (h : config.countNumber = 0) (aver : GPUMetric) :
    aver.average config = .error ⟨.divideByZero, .getGPUMetrics⟩ := by
  unfold GPUMetric.average divInt64
  rw [if_pos h]
  rfl

/-- With a flag of zero there is no row to check. -/
theorem constantColumn_of_zero {config : Config} (h : config.countNumber = 0) (frame : Frame)
    (rows : List (List Cell)) (column : Nat) (expected : Int64) :
    constantColumn frame rows column expected config.checkedRows = .ok true := by
  unfold Config.checkedRows
  rw [h]
  rfl

/-! ## Nodes and GPUs -/

/-- A node history that is gone on with has a flag of zero. -/
theorem count_eq_zero_of_nodeHistory {config : Config} {node : GrpcNode} {outcome : QueryOutcome}
    (hlimited : Limited config outcome) {rows : List (List Cell)}
    (h : nodeHistory config node outcome = .ok (some rows)) :
    config.countNumber = 0 ∧ outcome.rows = some rows := by
  obtain ⟨hrows, -, -⟩ := nodeHistory_eq_some_iff.mp h
  refine ⟨?_, hrows⟩
  by_contra hne
  have hcount := one_le_toInt (hlimited.nonneg hrows) hne
  exact nodeHistory_ne_some (Int64.le_iff_toInt_le.mpr hcount) node outcome rows h

/-- With a flag of zero a node history with readable rows ends in a division. -/
theorem getNodeMetric_of_zero {config : Config} {c : Client} {node : GrpcNode}
    (hzero : config.countNumber = 0) {rows : List (List Cell)}
    (hrows : (c.query (nodeQuery config node)).1.rows = some rows)
    (hreads : Reads nodeSample rows) :
    getNodeMetric config c node = .error ⟨.divideByZero, .getNodeMetric⟩ := by
  have hfew : ¬config.tooFew rows := by
    unfold Config.tooFew
    rw [hzero]
    exact Int.not_lt.mpr (Int.natCast_nonneg _)
  have hhistory : nodeHistory config node (c.query (nodeQuery config node)).1 = .ok (some rows) :=
    nodeHistory_eq_some_iff.mpr ⟨hrows, hfew, constantColumn_of_zero hzero _ _ _ _⟩
  obtain ⟨sums, hsums⟩ := exists_overRows hreads NodeMetric.add {}
  unfold getNodeMetric nodeStatistics
  rw [hhistory, ok_bind]
  simp only [hsums, ok_bind, nodeAverage_of_zero hzero, error_bind]

/-- `GetNodeMetric` divides by zero when the flag is zero and it gets readable rows. -/
theorem nodeDivisors_iff {config : Config} {c : Client} {node : GrpcNode}
    (hlimited : Limited config (c.query (nodeQuery config node)).1) :
    NodeDivisors config c node ↔
      ¬(config.countNumber = 0 ∧ ∃ rows, (c.query (nodeQuery config node)).1.rows = some rows ∧
        Reads nodeSample rows) := by
  constructor
  · rintro h ⟨hzero, rows, hrows, hreads⟩
    have hrun := getNodeMetric_of_zero hzero hrows hreads
    exact h.integers _ hrun rfl
  · intro hnot
    have hreads : ∀ rows,
        nodeHistory config node (c.query (nodeQuery config node)).1 = .ok (some rows) →
          ¬Reads nodeSample rows := by
      intro rows hhistory hreads
      obtain ⟨hzero, hrows⟩ := count_eq_zero_of_nodeHistory hlimited hhistory
      exact hnot ⟨hzero, rows, hrows, hreads⟩
    constructor
    · unfold NoZeroDivisor getNodeMetric
      refine raises_bind (raises_nodeHistory (by simp) (by simp) _ _ _) ?_
      intro history hhistory
      cases history with
      | none => exact raises_ok _
      | some rows =>
          have hunread := hreads rows hhistory
          refine raises_bind (raises_pass (raises_nodeSample (by simp)) ?_) ?_
          · intro hread
            exact absurd hread hunread
          · intro aver haver
            exact absurd haver (pass_ne_ok hunread _ _)
    · intro rows aver hhistory hstatistics
      exact absurd hstatistics (pass_ne_ok (hreads rows hhistory) _ _)

/-- A GPU history that is gone on with has a flag of zero. -/
theorem count_eq_zero_of_gpuHistory {config : Config} {gpu : GrpcGPU}
    {entry entry' : Option DegradationGPU} {outcome : QueryOutcome}
    (hlimited : Limited config outcome) {rows : List (List Cell)}
    (h : gpuHistory config gpu entry outcome = .ok (some rows, entry')) :
    config.countNumber = 0 ∧ entry.isSome ∧ outcome.rows = some rows := by
  obtain ⟨hentry, hrows, -⟩ := gpuHistory_eq_some_iff.mp ⟨entry', h⟩
  refine ⟨?_, hentry, hrows⟩
  by_contra hne
  have hcount := one_le_toInt (hlimited.nonneg hrows) hne
  exact gpuHistory_ne_some (Int64.le_iff_toInt_le.mpr hcount) gpu entry outcome rows entry' h

/-- And so does a GPU history, if there is an entry to name. -/
theorem getGPUMetrics_of_zero {config : Config} {c : Client} {gpu : GrpcGPU}
    {entry : Option DegradationGPU} (hzero : config.countNumber = 0) (hentry : entry.isSome)
    {rows : List (List Cell)} (hrows : (c.query (gpuQuery config gpu)).1.rows = some rows)
    (hreads : Reads gpuSample rows) :
    getGPUMetrics config c gpu entry = .error ⟨.divideByZero, .getGPUMetrics⟩ := by
  obtain ⟨entry', hhistory⟩ : ∃ entry', gpuHistory config gpu entry
      (c.query (gpuQuery config gpu)).1 = .ok (some rows, entry') :=
    gpuHistory_eq_some_iff.mpr ⟨hentry, hrows, constantColumn_of_zero hzero _ _ _ _⟩
  obtain ⟨sums, hsums⟩ := exists_overRows hreads GPUMetric.add {}
  unfold getGPUMetrics gpuStatistics
  rw [hhistory, ok_bind]
  simp only [hsums, ok_bind, gpuAverage_of_zero hzero, error_bind]

/-- `GetGPUMetrics` does so under the same condition, if it has an entry to name. -/
theorem gpuDivisors_iff {config : Config} {c : Client} {gpu : GrpcGPU}
    {entry : Option DegradationGPU} (hlimited : Limited config (c.query (gpuQuery config gpu)).1) :
    GPUDivisors config c gpu entry ↔
      ¬(config.countNumber = 0 ∧ entry.isSome ∧
        ∃ rows, (c.query (gpuQuery config gpu)).1.rows = some rows ∧ Reads gpuSample rows) := by
  constructor
  · rintro h ⟨hzero, hentry, rows, hrows, hreads⟩
    have hrun := getGPUMetrics_of_zero hzero hentry hrows hreads
    exact h.integers _ hrun rfl
  · intro hnot
    have hreads : ∀ rows entry',
        gpuHistory config gpu entry (c.query (gpuQuery config gpu)).1 = .ok (some rows, entry') →
          ¬Reads gpuSample rows := by
      intro rows entry' hhistory hreads
      obtain ⟨hzero, hentry, hrows⟩ := count_eq_zero_of_gpuHistory hlimited hhistory
      exact hnot ⟨hzero, hentry, rows, hrows, hreads⟩
    constructor
    · unfold NoZeroDivisor getGPUMetrics
      refine raises_bind (raises_gpuHistory (by simp) (by simp) _ _ _ _) ?_
      rintro ⟨history, entry'⟩ hhistory
      cases history with
      | none => exact raises_ok _
      | some rows =>
          have hunread := hreads rows entry' hhistory
          refine raises_bind (raises_pass (raises_gpuSample (by simp)) ?_) ?_
          · intro hread
            exact absurd hread hunread
          · intro aver haver
            exact absurd haver (pass_ne_ok hunread _ _)
    · intro rows entry' aver hhistory hstatistics
      exact absurd hstatistics (pass_ne_ok (hreads rows entry' hhistory) _ _)

/-! ## Pods -/

theorem reads_of_podStatistics {config : Config} {rows : List (List Cell)} {aver : PodMetric}
    (h : podStatistics config rows = .ok aver) : Reads podSample rows := by
  rcases bind_eq_ok.mp h with ⟨sums, hsums, -⟩
  exact reads_of_overRows hsums

/-- The statistics of a pod divide no integer by zero if the flag is not zero where
the rows are readable. -/
theorem noZeroDivisor_podStatistics {config : Config} {rows : List (List Cell)}
    (h : Reads podSample rows → config.countNumber ≠ 0) :
    NoZeroDivisor (podStatistics config rows) := by
  refine raises_pass (raises_podSample (by simp)) ?_
  intro hreads sums
  obtain ⟨aver, haver⟩ := exists_podAverage (h hreads) sums
  rw [haver, ok_bind]
  exact raises_pass (raises_podSample (by simp)) fun _ _ => raises_ok _

/-- And so does the handler. -/
theorem noZeroDivisor_getPodMetric {config : Config} {c : Client} {pod : Grpcs.PodMetric}
    {uuid : String} {entry : Option DegradationPod}
    (h : ∀ rows entry',
      podHistory config pod entry (c.query (podQuery config pod uuid)).1 =
          .ok (some rows, entry') →
        Reads podSample rows → config.countNumber ≠ 0) :
    NoZeroDivisor (getPodMetric config c pod uuid entry) := by
  unfold NoZeroDivisor getPodMetric
  refine raises_bind (raises_podHistory (by simp) _ _ _ _) ?_
  rintro ⟨history, entry'⟩ hhistory
  cases history with
  | none => exact raises_ok _
  | some rows =>
      refine raises_bind (noZeroDivisor_podStatistics (h rows entry' hhistory)) fun aver _ => ?_
      refine raises_bind (raises_podThreshold (by simp) (by simp) _ _ _ _ _) ?_
      rintro ⟨ret, c'⟩ _
      exact raises_ok _

/-- A flag of zero is a divisor after the first pass, and a flag of one leaves none
after the second. -/
theorem not_podDivisors_of_reads {config : Config} {c : Client} {pod : Grpcs.PodMetric}
    {uuid : String} {entry entry' : Option DegradationPod} {rows : List (List Cell)}
    (hcount : config.countNumber = 0 ∨ config.countNumber = 1)
    (hhistory : podHistory config pod entry (c.query (podQuery config pod uuid)).1 =
      .ok (some rows, entry'))
    (hreads : Reads podSample rows) : ¬PodDivisors config c pod uuid entry := by
  intro h
  rcases hcount with hzero | hone
  · obtain ⟨sums, hsums⟩ := exists_overRows hreads PodMetric.add {}
    apply h.count rows entry' sums hhistory hsums
    rw [hzero]
    rfl
  · have hne : config.countNumber ≠ 0 := by
      rw [hone]
      decide
    have hvalue : (1 : Int64).toInt = 1 := rfl
    obtain ⟨aver, haver⟩ := exists_podStatistics hne hreads
    apply h.degrees rows entry' aver hhistory haver
    unfold Config.degrees float64
    rw [hone, hvalue]
    norm_num

/-- `GetPodMetric` divides by zero when the flag is zero or one and it gets
readable rows, one of them at least if the flag is one. -/
theorem podDivisors_iff {config : Config} (hroots : config.Roots) {c : Client}
    {pod : Grpcs.PodMetric} {uuid : String} {entry : Option DegradationPod}
    (hlimited : Limited config (c.query (podQuery config pod uuid)).1) :
    PodDivisors config c pod uuid entry ↔
      ¬((config.countNumber = 0 ∨ config.countNumber = 1) ∧ entry.isSome ∧
        ∃ rows, (c.query (podQuery config pod uuid)).1.rows = some rows ∧
          ¬config.tooFew rows ∧ Reads podSample rows) := by
  constructor
  · rintro h ⟨hcount, hentry, rows, hrows, hfew, hreads⟩
    obtain ⟨entry', hhistory⟩ : ∃ entry', podHistory config pod entry
        (c.query (podQuery config pod uuid)).1 = .ok (some rows, entry') :=
      podHistory_eq_some_iff.mpr ⟨hentry, hrows, hfew⟩
    exact not_podDivisors_of_reads hcount hhistory hreads h
  · intro hnot
    have hcount : ∀ rows entry',
        podHistory config pod entry (c.query (podQuery config pod uuid)).1 =
          .ok (some rows, entry') →
        Reads podSample rows →
          0 ≤ config.countNumber ∧ config.countNumber ≠ 0 ∧ config.countNumber ≠ 1 := by
      intro rows entry' hhistory hreads
      obtain ⟨hentry, hrows, hfew⟩ := podHistory_eq_some_iff.mp ⟨entry', hhistory⟩
      have hne := fun hcount => hnot ⟨hcount, hentry, rows, hrows, hfew, hreads⟩
      exact ⟨hlimited.nonneg hrows, fun hzero => hne (Or.inl hzero), fun hone => hne (Or.inr hone)⟩
    refine ⟨noZeroDivisor_getPodMetric fun rows entry' hhistory hreads =>
      (hcount rows entry' hhistory hreads).2.1, ?_, ?_, ?_⟩
    · intro rows entry' sums hhistory hsums
      obtain ⟨-, hzero, -⟩ := hcount rows entry' hhistory (reads_of_overRows hsums)
      exact float64_count_ne_zero hzero
    · intro rows entry' aver hhistory hstatistics
      obtain ⟨-, -, hone⟩ := hcount rows entry' hhistory (reads_of_podStatistics hstatistics)
      exact degrees_ne_zero hone
    · intro rows entry' aver hhistory hstatistics
      obtain ⟨hnonneg, hzero, -⟩ :=
        hcount rows entry' hhistory (reads_of_podStatistics hstatistics)
      exact (lt_of_lt_of_le zero_lt_one (one_le_sqrtCount hroots hnonneg hzero)).ne'

/-! ## The thresholds -/

section Thresholds

variable {config : Config} (hroots : config.Roots) (hnonneg : 0 ≤ config.countNumber)

include hroots hnonneg

theorem sqrtCount_ne_zero_iff : config.sqrtCount ≠ 0 ↔ config.countNumber ≠ 0 := by
  constructor
  · intro h hzero
    exact h (sqrtCount_of_zero hroots hzero)
  · intro hne
    exact (lt_of_lt_of_le zero_lt_one (one_le_sqrtCount hroots hnonneg hne)).ne'

/-- A chain with a metric divides by zero exactly when the flag is zero. -/
theorem firstAbove_divisors_iff {F : Type} {frame : Frame} {average : F → Average Int64}
    {current verdict : F → Int64} {f : F} {fs : List F} :
    NoZeroDivisor (firstAbove config frame average current verdict (f :: fs)) ↔
      config.countNumber ≠ 0 := by
  constructor
  · intro h hzero
    have hdiv : truncInt64 config.sqrtCount = 0 := by
      rw [sqrtCount_of_zero hroots hzero]
      rfl
    exact h _ (firstAbove_cons_of_zero hdiv) rfl
  · intro hne
    apply raises_firstAbove
    intro hdiv
    exact absurd hdiv (truncInt64_ne_zero (one_le_sqrtCount hroots hnonneg hne))

theorem nodeThreshold_divisors_iff (aver : NodeMetric) (curr : GrpcNode) :
    NoZeroDivisor (nodeThreshold config aver curr) ↔ config.countNumber ≠ 0 := by
  rw [nodeThreshold_eq]
  exact firstAbove_divisors_iff hroots hnonneg

theorem gpuThreshold_divisors_iff (aver : GPUMetric) (curr : GrpcGPU) :
    NoZeroDivisor (gpuThreshold config aver curr) ↔ config.countNumber ≠ 0 := by
  rw [gpuThreshold_eq]
  exact firstAbove_divisors_iff hroots hnonneg

end Thresholds

/-! ## All of them -/

/-- Where there are divisions by zero: in the handlers for a flag of zero, in
`GetPodMetric` for a flag of one too, and in a threshold for a flag of zero. -/
theorem divisors_iff {config : Config} (hroots : config.Roots) (c : Client) (node : GrpcNode)
    (gpu : GrpcGPU) (gpuEntry : Option DegradationGPU) (pod : Grpcs.PodMetric) (uuid : String)
    (podEntry : Option DegradationPod)
    (hnode : Limited config (c.query (nodeQuery config node)).1)
    (hgpu : Limited config (c.query (gpuQuery config gpu)).1)
    (hpod : Limited config (c.query (podQuery config pod uuid)).1) :
    (NodeDivisors config c node ↔
      ¬(config.countNumber = 0 ∧ ∃ rows, (c.query (nodeQuery config node)).1.rows = some rows ∧
        Reads nodeSample rows)) ∧
    (GPUDivisors config c gpu gpuEntry ↔
      ¬(config.countNumber = 0 ∧ gpuEntry.isSome ∧
        ∃ rows, (c.query (gpuQuery config gpu)).1.rows = some rows ∧ Reads gpuSample rows)) ∧
    (PodDivisors config c pod uuid podEntry ↔
      ¬((config.countNumber = 0 ∨ config.countNumber = 1) ∧ podEntry.isSome ∧
        ∃ rows, (c.query (podQuery config pod uuid)).1.rows = some rows ∧
          ¬config.tooFew rows ∧ Reads podSample rows)) ∧
    (0 ≤ config.countNumber →
      (∀ aver, NoZeroDivisor (nodeThreshold config aver node) ↔ config.countNumber ≠ 0) ∧
      (∀ aver, NoZeroDivisor (gpuThreshold config aver gpu) ↔ config.countNumber ≠ 0) ∧
      (config.sqrtCount ≠ 0 ↔ config.countNumber ≠ 0)) := by
  refine ⟨nodeDivisors_iff hnode, gpuDivisors_iff hgpu, podDivisors_iff hroots hpod, ?_⟩
  intro hnonneg
  exact ⟨fun aver => nodeThreshold_divisors_iff hroots hnonneg aver node,
    fun aver => gpuThreshold_divisors_iff hroots hnonneg aver gpu,
    sqrtCount_ne_zero_iff hroots hnonneg⟩

/-- A square root that is right on zero, one and four. -/
def rootOfFour (q : ℚ) : ℚ := if q = 4 then 2 else q

theorem roots_of_rootOfFour (n : Int64) : Config.Roots { countNumber := n, sqrt := rootOfFour } where
  zero := rfl
  one_le q hq := by
    show 1 ≤ rootOfFour q
    unfold rootOfFour
    split_ifs
    · exact one_le_two
    · exact hq

theorem limited_clientOf {config : Config} {rows : List (List Cell)}
    (h : config.countNumber = 0 ∨ (rows.length : Int) ≤ config.countNumber.toInt) (q : Query) :
    Limited config ((clientOf rows).query q).1 := by
  intro rows' hrows
  cases hrows
  exact h

/-- A history of four rows, as many as asked for. -/
theorem divisors_of_four_rows :
    NodeDivisors { countNumber := 4, sqrt := rootOfFour }
        (clientOf (List.replicate 4 (List.replicate 14 .null))) {} ∧
      GPUDivisors { countNumber := 4, sqrt := rootOfFour }
        (clientOf (List.replicate 4 (List.replicate 14 .null))) {} (some {}) ∧
      PodDivisors { countNumber := 4, sqrt := rootOfFour }
        (clientOf (List.replicate 4 (List.replicate 14 .null))) {} "GPU-0" (some {}) := by
  have hlimited := @limited_clientOf { countNumber := 4, sqrt := rootOfFour }
    (List.replicate 4 (List.replicate 14 .null)) (by decide)
  obtain ⟨hnode, hgpu, hpod, -⟩ := divisors_iff (roots_of_rootOfFour 4)
    (clientOf (List.replicate 4 (List.replicate 14 .null))) {} {} (some {}) {} "GPU-0" (some {})
    (hlimited _) (hlimited _) (hlimited _)
  refine ⟨hnode.mpr ?_, hgpu.mpr ?_, hpod.mpr ?_⟩
  · rintro ⟨hzero, -⟩
    exact absurd hzero (by decide)
  · rintro ⟨hzero, -⟩
    exact absurd hzero (by decide)
  · rintro ⟨hcount, -⟩
    exact absurd hcount (by decide)

/-- On a reply of one row a flag of zero divides by zero in the handlers of the node
and of a GPU, and a flag of one does in the handler of a pod. -/
theorem not_divisors :
    (Config.Roots { countNumber := 0, sqrt := rootOfFour } ∧
      (∀ q, Limited { countNumber := 0, sqrt := rootOfFour }
        ((clientOf [List.replicate 14 .null]).query q).1) ∧
      ¬NodeDivisors { countNumber := 0, sqrt := rootOfFour }
        (clientOf [List.replicate 14 .null]) {} ∧
      ¬GPUDivisors { countNumber := 0, sqrt := rootOfFour }
        (clientOf [List.replicate 14 .null]) {} (some {})) ∧
    Config.Roots { countNumber := 1, sqrt := rootOfFour } ∧
      (∀ q, Limited { countNumber := 1, sqrt := rootOfFour }
        ((clientOf [List.replicate 14 .null]).query q).1) ∧
      ¬PodDivisors { countNumber := 1, sqrt := rootOfFour }
        (clientOf [List.replicate 14 .null]) {} "GPU-0" (some {}) := by
  refine ⟨⟨roots_of_rootOfFour 0, limited_clientOf (Or.inl rfl), ?_, ?_⟩,
    roots_of_rootOfFour 1, limited_clientOf (Or.inr (by decide)), ?_⟩
  · intro h
    exact h.integers ⟨.divideByZero, .getNodeMetric⟩ rfl rfl
  · intro h
    exact h.integers ⟨.divideByZero, .getGPUMetrics⟩ rfl rfl
  · intro h
    have hreads : Reads podSample [List.replicate 14 .null] := by
      intro row hrow
      rw [List.mem_singleton.mp hrow]
      exact ⟨_, rfl⟩
    exact not_podDivisors_of_reads (Or.inr rfl) rfl hreads h

end MetricCollector.Analyzer
