import MetricCollector.Gpumpsmetric.Coverage

/-!
# The usage of a pod

The mapping pass looks for a pod in the decoded batch by its name, and goes on
after it has found one.  The batch has the pods of all namespaces, while the
mapped pods are all in `userpod`, so what an entry gets is the usage of the last
pod of its name.

* `entryUsage_withUsage` is the loop over the batch.
* `usage_of_mapPods` is what the mapping pass leaves.
* `ownUsage_iff` says when the entry of a pod has the pod's own usage.
-/

namespace MetricCollector.Gpumpsmetric

open GoLib Grpcs Storage

/-- The five figures that an entry takes from a decoded pod. -/
structure Usage where
  cpu : ℚ := 0
  storage : Int64 := 0
  networkTX : Int64 := 0
  networkRX : Int64 := 0
  memory : Int64 := 0
deriving DecidableEq

/-- Those of a decoded pod. -/
def usageOf (pod : PodMetricsPoint) : Usage where
  cpu := pod.metricsPoint.cpuUsageNanoCores.milliValue.toInt
  storage := pod.metricsPoint.fsUsedBytes.getValue
  networkTX := pod.metricsPoint.networkTxBytes.getValue
  networkRX := pod.metricsPoint.networkRxBytes.getValue
  memory := pod.metricsPoint.memoryUsageBytes.getValue

/-- Those stored in an entry. -/
def entryUsage (entry : PodMetric) : Usage where
  cpu := entry.podCPU
  storage := entry.podStorage
  networkTX := entry.podNetworkTX
  networkRX := entry.podNetworkRX
  memory := entry.podMemory

/-- The usage of the pod of this name in `userpod`, and zero without such a pod. -/
def IsUsageOf (pods : List PodMetricsPoint) (name : String) (usage : Usage) : Prop :=
  (∃ pod ∈ pods, pod.name = name ∧ pod.podNamespace = "userpod" ∧ usage = usageOf pod) ∨
    (∀ pod ∈ pods, pod.name = name → pod.podNamespace ≠ "userpod") ∧ usage = {}

/-- The last pod of this name. -/
def lastNamed (pods : List PodMetricsPoint) (name : String) : Option PodMetricsPoint :=
  (pods.filter (·.name = name)).getLast?

/-- The last pod of this name is the one in `userpod`, or has its usage. -/
def Unshadowed (pods : List PodMetricsPoint) (name : String) : Prop :=
  ∀ last, lastNamed pods name = some last →
    last.podNamespace = "userpod" ∨ IsUsageOf pods name (usageOf last)

theorem lastNamed_mem {pods : List PodMetricsPoint} {name : String} {last : PodMetricsPoint}
    (h : lastNamed pods name = some last) : last ∈ pods ∧ last.name = name := by
  have hmem := List.mem_of_getLast? h
  simpa using hmem

theorem lastNamed_cons (pod : PodMetricsPoint) (pods : List PodMetricsPoint) (name : String) :
    lastNamed (pod :: pods) name =
      if pod.name = name then some ((lastNamed pods name).getD pod) else lastNamed pods name := by
  unfold lastNamed
  by_cases hname : pod.name = name
  · rw [if_pos hname, List.filter_cons_of_pos (by simpa using hname), List.getLast?_cons]
  · rw [if_neg hname, List.filter_cons_of_neg (by simpa using hname)]

/-- The loop over the batch leaves the usage of the last pod of the name. -/
theorem entryUsage_withUsage (pods : List PodMetricsPoint) (entry : PodMetric) :
    entryUsage (withUsage pods entry) =
      ((lastNamed pods entry.podName).map usageOf).getD (entryUsage entry) := by
  unfold withUsage
  induction pods generalizing entry with
  | nil => rfl
  | cons pod pods ih =>
      rw [List.foldl_cons, lastNamed_cons]
      by_cases hname : entry.podName = pod.name
      · rw [if_pos hname, if_pos hname.symm, ih]
        show ((lastNamed pods entry.podName).map usageOf).getD (usageOf pod) = _
        cases lastNamed pods entry.podName with
        | none => rfl
        | some last => rfl
      · rw [if_neg hname, if_neg fun h => hname h.symm]
        exact ih entry

/-- Which is its own in `userpod` exactly if no pod shadows it. -/
theorem isUsageOf_lastNamed_iff (pods : List PodMetricsPoint) (name : String) :
    IsUsageOf pods name (((lastNamed pods name).map usageOf).getD {}) ↔ Unshadowed pods name := by
  unfold Unshadowed
  cases hlast : lastNamed pods name with
  | none =>
      have hnobody : ∀ pod ∈ pods, pod.name = name → pod.podNamespace ≠ "userpod" := by
        intro pod hpod hname
        have hempty : pods.filter (·.name = name) = [] := List.getLast?_eq_none_iff.mp hlast
        have hmem : pod ∈ pods.filter (·.name = name) := List.mem_filter.mpr ⟨hpod, by simpa using hname⟩
        rw [hempty] at hmem
        cases hmem
      exact iff_of_true (Or.inr ⟨hnobody, rfl⟩) (fun last h => by cases h)
  | some last =>
      obtain ⟨hmem, hname⟩ := lastNamed_mem hlast
      constructor
      · intro h last' hlast'
        cases hlast'
        exact Or.inr h
      · intro h
        rcases h last rfl with hspace | husage
        · exact Or.inl ⟨last, hmem, hname, hspace, rfl⟩
        · exact husage

/-! ## The mapping pass -/

/-- The entry is of the slot, with the usage of the last pod of its name. -/
structure EntryFrom (pods : List PodMetricsPoint) (slot : GpuMpsMap) (entry : PodMetric) : Prop where
  podName : entry.podName = slot.pod
  usage : entryUsage entry = ((lastNamed pods slot.pod).map usageOf).getD {}

/-- A turn leaves `GPUPod` alone, or appends the entry of its slot. -/
theorem entryFrom_of_mapTurn {mps : Processinfo} {data : Collection} {batch : MetricsBatch}
    (hbatch : data.metricsbatchs[0]? = some batch) {table : List GpuMpsMap} {i : Nat}
    {gpuPod gpuPod' : List PodMetric} (hlength : gpuPod.length ≤ i)
    (h : mapTurn mps data table gpuPod i = .ok gpuPod') :
    gpuPod' = gpuPod ∨ gpuPod.length = i ∧ ∃ slot entry, table[i]? = some slot ∧
      gpuPod' = gpuPod ++ [entry] ∧ EntryFrom batch.pods slot entry := by
  unfold mapTurn at h
  rcases bind_eq_ok.mp h with ⟨slot, hslot, h⟩
  rcases scanProcesses_eq_ok h with hsame | ⟨k, id, hmatch⟩
  · exact Or.inl hsame
  · rcases matchProcess_eq_ok hmatch with ⟨entry, process, name, batch', hentry, hbatch', rfl⟩
    rw [hbatch] at hbatch'
    cases hbatch'
    -- the entry at `i` exists only if it is the one just appended
    have hrange := (List.getElem?_eq_some_iff.mp hentry).1
    rw [List.length_append, List.length_singleton] at hrange
    have hlast : gpuPod.length = i := by omega
    subst hlast
    rw [List.getElem?_append_right le_rfl, Nat.sub_self] at hentry
    cases hentry
    have hset : ∀ last : PodMetric,
        (gpuPod ++ [({} : PodMetric)]).set gpuPod.length last = gpuPod ++ [last] := by
      intro last
      rw [List.set_append_right _ _ le_rfl, Nat.sub_self]
      rfl
    refine Or.inr ⟨rfl, slot, _, index_eq_ok.mp hslot, hset _, (withUsage_identity _ _).1, ?_⟩
    rw [entryUsage_withUsage]
    rfl

/-- The entries that the first turns leave are those of the first slots. -/
theorem usage_of_mapPods {mps : Processinfo} {data : Collection} {batch : MetricsBatch}
    (hbatch : data.metricsbatchs[0]? = some batch) {table : List GpuMpsMap} {n : Nat}
    {gpuPod : List PodMetric} (h : mapPods mps data table n [] = .ok gpuPod) :
    gpuPod.length ≤ n ∧ ∀ (i : Nat) entry, gpuPod[i]? = some entry →
      ∃ slot, table[i]? = some slot ∧ EntryFrom batch.pods slot entry := by
  induction n generalizing gpuPod with
  | zero =>
      cases h
      exact ⟨le_rfl, fun i entry hentry => by cases hentry⟩
  | succ n ih =>
      unfold mapPods at h
      rw [foldlM_range_succ] at h
      rcases bind_eq_ok.mp h with ⟨before, hbefore, hturn⟩
      obtain ⟨hlength, hentries⟩ := ih hbefore
      rcases entryFrom_of_mapTurn hbatch hlength hturn with rfl | ⟨hn, slot, last, hslot, rfl, hlast⟩
      · exact ⟨by omega, hentries⟩
      · refine ⟨by simp [hn], ?_⟩
        intro i entry hentry
        by_cases hi : i < before.length
        · rw [List.getElem?_append_left hi] at hentry
          exact hentries i entry hentry
        · have hrange := (List.getElem?_eq_some_iff.mp hentry).1
          rw [List.length_append, List.length_singleton] at hrange
          have hend : i = before.length := by omega
          subst hend
          rw [List.getElem?_append_right le_rfl, Nat.sub_self] at hentry
          cases hentry
          exact ⟨slot, by rw [hn]; exact hslot, hlast⟩

/-! ## Own usage -/

/-- The filling pass gives each slot the name of its pod. -/
theorem slot_of_fillPods {uuid : String} {pods : List Pod} {filled : List GpuMpsMap × Nat}
    (h : fillPods uuid pods = .ok filled) {i : Nat} {pod : Pod}
    (hpod : (annotated uuid pods)[i]? = some pod) : filled.1[i]? = some pod.slot := by
  obtain ⟨hfits, hread⟩ := (fillPods_returns_iff uuid pods).mp ⟨filled, h⟩
  rw [fillPods_eq hread hfits] at h
  cases h
  exact slots_getElem? i pod hpod

/-- At every stage of the mapping pass, the entry of a pod has the usage of the
pod of the same name in `userpod` exactly if no other pod of the name shadows
it. -/
theorem ownUsage_iff {uuid : String} {pods : List Pod} {filled : List GpuMpsMap × Nat}
    (hfilled : fillPods uuid pods = .ok filled) {data : Collection} {batch : MetricsBatch}
    (hbatch : data.metricsbatchs[0]? = some batch) {mps : Processinfo} {n : Nat}
    (hn : n ≤ filled.2) {gpuPod : List PodMetric}
    (hmapped : mapPods mps data filled.1 n [] = .ok gpuPod) {i : Nat} {entry : PodMetric}
    (hentry : gpuPod[i]? = some entry) :
    ∃ pod, (annotated uuid pods)[i]? = some pod ∧ entry.podName = pod.name ∧
      (IsUsageOf batch.pods pod.name (entryUsage entry) ↔ Unshadowed batch.pods pod.name) := by
  obtain ⟨hlength, hentries⟩ := usage_of_mapPods hbatch hmapped
  have hi : i < gpuPod.length := (List.getElem?_eq_some_iff.mp hentry).1
  have hcount := podnum_of_fillPods hfilled
  have hpod : (annotated uuid pods)[i]? = some (annotated uuid pods)[i] :=
    List.getElem?_eq_getElem (by omega)
  rcases hentries i entry hentry with ⟨slot, hslot, hfrom⟩
  rw [slot_of_fillPods hfilled hpod] at hslot
  cases hslot
  refine ⟨_, hpod, hfrom.podName, ?_⟩
  rw [hfrom.usage]
  exact isUsageOf_lastNamed_iff batch.pods _

/-- A decoded pod named `a`. -/
def podIn (podNamespace : String) (memory : Int64) : PodMetricsPoint where
  name := "a"
  podNamespace := podNamespace
  metricsPoint := { memoryUsageBytes := { value := memory } }

/-- The snapshot of one process in container `abc`. -/
def oneProcess : Processinfo := ⟨[⟨1, 10⟩], ["python"], ["abc"]⟩

/-- The entry of the pod that it runs in. -/
def entryUsing (memory : Int64) : PodMetric where
  podUid := "a-uid"
  podName := "a"
  processName := "python"
  podPid := 1
  podGPUMemory := 10
  podMemory := memory
  containerID := "abc"

theorem fillPods_one : fillPods "GPU-0" [runningPod "a" "abc"] =
    .ok (slots "GPU-0" [runningPod "a" "abc"], 1) := by
  decide

theorem ownUsage_of_two_pods :
    ∃ pod, (annotated "GPU-0" [runningPod "a" "abc"])[0]? = some pod ∧
      (entryUsing 5).podName = pod.name ∧
      (IsUsageOf [podIn "default" 7, podIn "userpod" 5] pod.name (entryUsage (entryUsing 5)) ↔
        Unshadowed [podIn "default" 7, podIn "userpod" 5] pod.name) := by
  have hmapped : mapPods oneProcess ⟨[{ pods := [podIn "default" 7, podIn "userpod" 5] }]⟩
      (slots "GPU-0" [runningPod "a" "abc"]) 1 [] = .ok [entryUsing 5] := by
    decide
  have hentry : [entryUsing 5][0]? = some (entryUsing 5) := rfl
  exact ownUsage_iff fillPods_one rfl le_rfl hmapped hentry

/-- In the other order the entry has the usage of the pod in `default`. -/
theorem not_ownUsage :
    ¬∀ (uuid : String) (pods : List Pod) (filled : List GpuMpsMap × Nat) (data : Collection)
        (batch : MetricsBatch) (mps : Processinfo) (n : Nat) (gpuPod : List PodMetric),
      fillPods uuid pods = .ok filled → data.metricsbatchs[0]? = some batch → n ≤ filled.2 →
      mapPods mps data filled.1 n [] = .ok gpuPod →
      ∀ entry ∈ gpuPod, IsUsageOf batch.pods entry.podName (entryUsage entry) := by
  intro h
  have hmapped : mapPods oneProcess ⟨[{ pods := [podIn "userpod" 5, podIn "default" 7] }]⟩
      (slots "GPU-0" [runningPod "a" "abc"]) 1 [] = .ok [entryUsing 7] := by
    decide
  have husage := h _ _ _ _ _ _ _ _ fillPods_one rfl le_rfl hmapped _ (List.mem_singleton_self _)
  rcases husage with ⟨pod, hpod, -, hspace, hsame⟩ | ⟨hnone, -⟩
  · rcases List.mem_pair.mp hpod with rfl | rfl
    · exact absurd hsame (by decide)
    · exact absurd hspace (by decide)
  · exact hnone (podIn "userpod" 5) (by decide) rfl rfl

end MetricCollector.Gpumpsmetric
