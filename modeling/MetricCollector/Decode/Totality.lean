import MetricCollector.Decode.Sections

/-!
# Which summaries are decoded

`DecodeBatch` follows three counters without a test: the usage of a memory
section that has a working set, and the available and capacity bytes of a
filesystem section.

* `decodeBatch_returns_iff` says that it returns unless one of them is `nil` in
  a node or a pod that has a time.
* `decodeBatch_total_iff` adds what then becomes of the items that are missing.
-/

namespace MetricCollector.Decode

open GoLib Compact Resource Storage Stats

/-- No counter that is followed is `nil`, in the node and in any pod. -/
structure Counted (summary : Summary) : Prop where
  node : ¬Untimed (nodeTimes summary.node) → (nodeSections summary.node).Counted
  pods : ∀ pod ∈ summary.pods, ¬Untimed (podTimes pod) → (podSections pod).Counted

theorem decodeBatch_returns_iff (summary : Summary) :
    (∃ batch err, decodeBatch summary = .ok (batch, err)) ↔ Counted summary := by
  constructor
  · intro h
    rcases h with ⟨batch, err, h⟩
    rcases decodeBatch_eq_ok h with ⟨node, nodeErrs, decoded, hnode, hpods, -, -⟩
    constructor
    · rw [decodeNodeStats_eq] at hnode
      exact (caller_returns_iff (nodeCaller summary.node) {}).mp ⟨_, hnode⟩
    · intro pod hpod
      obtain ⟨k, hk⟩ := List.mem_iff_getElem?.mp hpod
      obtain ⟨out, hout, -⟩ := (mapM_eq_ok hpods).2 k pod hk
      rw [decodePodStats_eq] at hout
      exact (caller_returns_iff (podCaller pod) {}).mp ⟨_, hout⟩
  · intro h
    obtain ⟨⟨node, nodeErrs⟩, hnode⟩ := (caller_returns_iff (nodeCaller summary.node) {}).mpr h.node
    obtain ⟨decoded, hpods⟩ : ∃ decoded,
        summary.pods.mapM (fun pod => decodePodStats pod {}) = .ok decoded := by
      apply exists_mapM_eq_ok
      intro pod hpod
      rw [decodePodStats_eq]
      exact (caller_returns_iff (podCaller pod) {}).mpr (h.pods pod hpod)
    rw [← decodeNodeStats_eq] at hnode
    exact ⟨_, _, decodeBatch_of_decoded hnode hpods⟩

/-! ## What becomes of a missing item -/

/-- The metrics that a section may leave out without an error. -/
def Metric.isOptional : Metric → Bool
  | .memoryAvailable => true
  | .networkRx => true
  | .networkTx => true
  | .fsUsed => true
  | _ => false

/-- One of the errors is for the node or pod with this name. -/
def Reports (err : Option (List DecodeError)) (name : String) : Prop :=
  ∃ errs, err = some errs ∧ ∃ e ∈ errs, e.name = name

/-- A missing item is reported, or it is optional and left at zero. -/
structure Handled (summary : Summary) (batch : MetricsBatch) (err : Option (List DecodeError)) :
    Prop where
  node : ∀ m, (nodeSections summary.node).total m = none →
    Reports err summary.node.nodeName ∨
      m.isOptional ∧ amount (Metric.read batch.node.metricsPoint m) = 0
  pods : ∀ pod ∈ summary.pods, ∀ m, (podSections pod).total m = none →
    Reports err pod.podRef.name ∨ m.isOptional ∧ ∃ point ∈ batch.pods,
      point.name = pod.podRef.name ∧ point.podNamespace = pod.podRef.podNamespace ∧
      amount (Metric.read point.metricsPoint m) = 0

theorem amount_zero (format : Format) (scale : Int) : amount ⟨0, scale, format⟩ = 0 := by
  unfold amount
  simp

/-- A quantity that nothing was written to. -/
theorem amount_of_filled_none {s : Sections} {m : Metric} (h : s.filled m = none) :
    amount (s.fill m) = 0 := by
  unfold Sections.fill
  rw [h]
  exact amount_zero _ _

/-- An item that the decoder asks for and does not find is an error. -/
theorem Decoded.errs_ne_nil {P : Type} {caller : Caller P} {point : MetricsPoint}
    {errs : List DecodeError} (h : Decoded caller point errs)
    (hmissing : caller.sections.filled .cpuUsage = none ∨
      caller.sections.filled .memoryWorkingSet = none ∨ caller.sections.fs = none) :
    errs ≠ [] := by
  intro hnil
  have hpresent := h.clean.mp hnil
  rcases hmissing with hnone | hnone | hnone
  · simp [hnone] at hpresent
  · simp [hnone] at hpresent
  · simp [hnone] at hpresent

/-- A section that always has the item is missing when the item is. -/
theorem eq_none_of_bind {S A : Type} {part : Option S} {item : S → Option A}
    (hsome : ∀ s, part = some s → (item s).isSome) (hnone : part.bind item = none) :
    part = none := by
  cases hpart : part with
  | none => rfl
  | some s =>
      have hpresent := hsome s hpart
      rw [hpart, Option.bind_some] at hnone
      rw [hnone] at hpresent
      cases hpresent

/-- What a decoded point has for a missing item. -/
theorem Decoded.missing {P : Type} {caller : Caller P} {point : MetricsPoint}
    {errs : List DecodeError} (h : Decoded caller point errs) {m : Metric}
    (hmissing : caller.sections.total m = none) :
    errs ≠ [] ∨ m.isOptional ∧ amount (Metric.read point m) = 0 := by
  have hread := h.quantities m
  have hzero : caller.sections.filled m = none → amount (Metric.read point m) = 0 := by
    intro hnone
    rw [hread]
    exact amount_of_filled_none hnone
  have hcounted := h.counted
  cases m with
  | cpuUsage =>
      have hnone := Option.map_eq_none_iff.mp hmissing
      exact Or.inl (h.errs_ne_nil (Or.inl hnone))
  | memoryUsage =>
      -- the usage is there as soon as the working set is
      have hnone := Option.map_eq_none_iff.mp hmissing
      have hworkingSet : caller.sections.filled .memoryWorkingSet = none := by
        cases hmemory : caller.sections.memory with
        | none => simp [Sections.filled, hmemory]
        | some memory =>
            rw [hmemory, Option.bind_some] at hnone
            have husage := hcounted.memory memory hmemory
            simpa [Sections.filled, hmemory, hnone] using husage
      exact Or.inl (h.errs_ne_nil (Or.inr (Or.inl hworkingSet)))
  | memoryAvailable =>
      have hnone := Option.map_eq_none_iff.mp hmissing
      refine Or.inr ⟨rfl, hzero ?_⟩
      cases hmemory : caller.sections.memory with
      | none => simp [Sections.filled, hmemory]
      | some memory =>
          rw [hmemory, Option.bind_some] at hnone
          simp [Sections.filled, hmemory, hnone]
  | memoryWorkingSet =>
      have hnone := Option.map_eq_none_iff.mp hmissing
      exact Or.inl (h.errs_ne_nil (Or.inr (Or.inl hnone)))
  | networkRx => exact Or.inr ⟨rfl, hzero rfl⟩
  | networkTx => exact Or.inr ⟨rfl, hzero rfl⟩
  | fsAvailable =>
      have hnone := Option.map_eq_none_iff.mp hmissing
      have hfs := eq_none_of_bind (fun fs hfs => (hcounted.fs fs hfs).1) hnone
      exact Or.inl (h.errs_ne_nil (Or.inr (Or.inr hfs)))
  | fsCapacity =>
      have hnone := Option.map_eq_none_iff.mp hmissing
      have hfs := eq_none_of_bind (fun fs hfs => (hcounted.fs fs hfs).2) hnone
      exact Or.inl (h.errs_ne_nil (Or.inr (Or.inr hfs)))
  | fsUsed =>
      have hnone := Option.map_eq_none_iff.mp hmissing
      refine Or.inr ⟨rfl, ?_⟩
      cases hfs : caller.sections.fs with
      | none => exact hzero (by simp [Sections.filled, hfs])
      | some fs =>
          rw [hfs, Option.bind_some] at hnone
          have hfilled : caller.sections.filled .fsUsed = some 0 := by
            simp [Sections.filled, hfs, hnone]
          rw [hread, Sections.fill, hfilled]
          exact amount_zero _ _

/-! ## The batch -/

/-- The aggregate is `nil` or the list of the errors. -/
theorem reports_newAggregate {errs : List DecodeError} {name : String} :
    Reports (newAggregate errs) name ↔ ∃ e ∈ errs, e.name = name := by
  unfold Reports newAggregate
  by_cases hnone : errs = []
  · simp [hnone]
  · simp [hnone]

/-- A batch that returns has handled what is missing. -/
theorem handled_of_decodeBatch {summary : Summary} {batch : MetricsBatch}
    {err : Option (List DecodeError)} (h : decodeBatch summary = .ok (batch, err)) :
    Handled summary batch err := by
  rcases decodeBatch_eq_ok h with ⟨node, nodeErrs, decoded, hnode, hpods, rfl, rfl⟩
  rw [decodeNodeStats_eq] at hnode
  constructor
  · intro m hmissing
    have hreports : ∀ e ∈ nodeErrs, e.name = summary.node.nodeName →
        Reports (newAggregate (nodeErrs ++ decoded.flatMap Prod.snd)) summary.node.nodeName := by
      intro e he hname
      exact reports_newAggregate.mpr ⟨e, List.mem_append_left _ he, hname⟩
    rcases decode_cases hnode with hdiscarded | ⟨point, rfl, hdecoded⟩
    · rcases hdiscarded.reported with ⟨e, rfl, hname⟩
      exact Or.inl (hreports e List.mem_cons_self hname)
    · rcases hdecoded.missing hmissing with herrs | hskipped
      · have he := List.exists_mem_of_ne_nil _ herrs
        rcases he with ⟨e, he⟩
        exact Or.inl (hreports e he (hdecoded.named e he))
      · exact Or.inr hskipped
  · intro pod hpod m hmissing
    have hk := List.mem_iff_getElem?.mp hpod
    rcases hk with ⟨k, hk⟩
    rcases (mapM_eq_ok hpods).2 k pod hk with ⟨⟨out, errs⟩, hout, hitem⟩
    have hmem := List.mem_of_getElem? hitem
    have hreports : ∀ e ∈ errs, e.name = pod.podRef.name →
        Reports (newAggregate (nodeErrs ++ decoded.flatMap Prod.snd)) pod.podRef.name := by
      intro e he hname
      have hall : e ∈ decoded.flatMap Prod.snd := List.mem_flatMap.mpr ⟨_, hmem, he⟩
      exact reports_newAggregate.mpr ⟨e, List.mem_append_right _ hall, hname⟩
    rw [decodePodStats_eq] at hout
    rcases decode_cases hout with hdiscarded | ⟨point, rfl, hdecoded⟩
    · rcases hdiscarded.reported with ⟨e, rfl, hname⟩
      exact Or.inl (hreports e List.mem_cons_self hname)
    · by_cases herrs : errs = []
      · have hskipped := (hdecoded.missing hmissing).resolve_left (fun h => h herrs)
        have hkept : (podCaller pod).place point ∈ complete decoded := by
          unfold complete
          exact List.mem_map.mpr ⟨_, List.mem_filter.mpr ⟨hmem, by simp [herrs]⟩, rfl⟩
        exact Or.inr ⟨hskipped.1, _, hkept, rfl, rfl, hskipped.2⟩
      · have he := List.exists_mem_of_ne_nil _ herrs
        rcases he with ⟨e, he⟩
        exact Or.inl (hreports e he (hdecoded.named e he))

/-- `DecodeBatch` is total, and handles what is missing, on the summaries in
which no counter that it follows is `nil`. -/
theorem decodeBatch_total_iff (summary : Summary) :
    (∃ batch err, decodeBatch summary = .ok (batch, err) ∧ Handled summary batch err) ↔
      Counted summary := by
  rw [← decodeBatch_returns_iff]
  constructor
  · intro h
    rcases h with ⟨batch, err, h, -⟩
    exact ⟨batch, err, h⟩
  · intro h
    rcases h with ⟨batch, err, h⟩
    exact ⟨batch, err, h, handled_of_decodeBatch h⟩

/-- A pod whose memory section has a working set and no usage. -/
def podWithoutUsage : Summary where
  pods := [{ completePod "a" with memory := some { time := 5, workingSetBytes := some 2 } }]

/-- It stops the batch. -/
theorem decodeBatch_faults_without_usage :
    ¬∃ batch err, decodeBatch podWithoutUsage = .ok (batch, err) ∧
      Handled podWithoutUsage batch err := by
  rintro ⟨batch, err, h, -⟩
  cases h

end MetricCollector.Decode
