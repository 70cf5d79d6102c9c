import MetricCollector.Gpumpsmetric.Mapping

/-!
# When every pod is mapped

The loops of the mapping, one specification each, and what they come to: the
mapping and the write loop get through, and leave one right entry for each
annotated pod, exactly when each of these pods has its container in the
snapshot.
-/

namespace MetricCollector.Gpumpsmetric

open GoLib Grpcs Influx Storage

/-! ## The filling pass -/

/-- What the filling pass writes for a pod whose status it can read. -/
def Pod.slot (pod : Pod) : GpuMpsMap where
  uid := pod.uid
  container := pod.containers.headD ""
  containerID := (pod.containerStatuses.map ContainerStatus.containerID).headD ""
  pod := pod.name
  startTime := (pod.containerStatuses.head?.bind ContainerStatus.running).getD 0

/-- The container ID of a pod after its scheme. -/
def Pod.containerid (pod : Pod) : String := (split '/' pod.slot.containerID).getD 2 ""

/-- The status of a running pod. -/
structure Pod.WellFormed (pod : Pod) : Prop where
  containers : pod.containers ≠ []
  running : ∃ status rest startedAt, pod.containerStatuses = status :: rest ∧
    status.running = some startedAt
  scheme : 2 < (split '/' pod.slot.containerID).length

/-- What the filling pass reads of a pod is there. -/
structure Pod.Readable (pod : Pod) : Prop where
  containers : pod.containers ≠ []
  running : ∃ status rest startedAt, pod.containerStatuses = status :: rest ∧
    status.running = some startedAt

theorem Pod.WellFormed.readable {pod : Pod} (h : pod.WellFormed) : pod.Readable :=
  ⟨h.containers, h.running⟩

theorem Pod.WellFormed.index_containerid {pod : Pod} (h : pod.WellFormed) :
    index Frame.gpumpsmetric (split '/' pod.slot.containerID) 2 = .ok pod.containerid := by
  apply index_of_getElem?
  unfold Pod.containerid
  rw [List.getD_eq_getElem?_getD, List.getElem?_eq_getElem h.scheme]
  rfl

/-- One write of the filling pass puts the pod's slot after those already
written. -/
theorem fillSlot_eq {pod : Pod} (h : pod.Readable) (done : List GpuMpsMap) (free : Nat) :
    fillSlot (done ++ List.replicate (free + 1) GpuMpsMap.empty, done.length) pod =
      .ok (done ++ [pod.slot] ++ List.replicate free GpuMpsMap.empty, done.length + 1) := by
  obtain ⟨status, rest, startedAt, hstatuses, hrunning⟩ := h.running
  obtain ⟨container, containers, hcontainers⟩ := List.exists_cons_of_ne_nil h.containers
  have hslot : index Frame.gpumpsmetric (done ++ List.replicate (free + 1) GpuMpsMap.empty)
      done.length = .ok GpuMpsMap.empty := by
    apply index_of_getElem?
    simp
  have hcontainer : index Frame.gpumpsmetric pod.containers 0 = .ok container := by
    rw [hcontainers]
    rfl
  have hstatus : index Frame.gpumpsmetric pod.containerStatuses 0 = .ok status := by
    rw [hstatuses]
    rfl
  unfold fillSlot
  rw [hslot, ok_bind, hcontainer, ok_bind, hstatus, ok_bind, hrunning, deref_some, ok_bind]
  have hpod : pod.slot = ⟨pod.uid, container, status.containerID, pod.name, startedAt⟩ := by
    simp [Pod.slot, hcontainers, hstatuses, hrunning]
  rw [hpod]
  simp [List.replicate_succ]

/-- A write that succeeds had a slot left and could read the pod. -/
theorem fillSlot_eq_ok {acc acc' : List GpuMpsMap × Nat} {pod : Pod}
    (h : fillSlot acc pod = .ok acc') :
    acc.2 < acc.1.length ∧ pod.Readable ∧ acc'.1.length = acc.1.length ∧ acc'.2 = acc.2 + 1 := by
  unfold fillSlot at h
  rcases bind_eq_ok.mp h with ⟨slot, hslot, h⟩
  rcases bind_eq_ok.mp h with ⟨container, hcontainer, h⟩
  rcases bind_eq_ok.mp h with ⟨status, hstatus, h⟩
  rcases bind_eq_ok.mp h with ⟨startedAt, hstarted, h⟩
  cases h
  refine ⟨(List.getElem?_eq_some_iff.mp (index_eq_ok.mp hslot)).1, ⟨?_, ?_⟩, by simp, rfl⟩
  · intro hnone
    rw [hnone] at hcontainer
    cases hcontainer
  · cases hstatuses : pod.containerStatuses with
    | nil =>
        rw [hstatuses] at hstatus
        cases hstatus
    | cons first rest =>
        rw [hstatuses] at hstatus
        cases hstatus
        cases hrunning : status.running with
        | none =>
            rw [hrunning] at hstarted
            cases hstarted
        | some time => exact ⟨status, rest, time, rfl, hrunning⟩

/-- The nested loops of the filling pass go over the annotated pods. -/
theorem fillPods_eq_foldlM (uuid : String) (pods : List Pod) :
    fillPods uuid pods =
      (annotated uuid pods).foldlM fillSlot (List.replicate 48 GpuMpsMap.empty, 0) := by
  have hflat : ∀ acc, pods.foldlM (fun acc pod =>
      (pod.matching uuid).foldlM (fun acc _ => fillSlot acc pod) acc) acc =
        (annotated uuid pods).foldlM fillSlot acc := by
    unfold annotated
    induction pods with
    | nil => intro acc; rfl
    | cons pod pods ih =>
        intro acc
        rw [List.foldlM_cons, List.flatMap_cons, List.foldlM_append, List.foldlM_map]
        congr 1
        funext acc'
        exact ih acc'
  exact hflat _

/-- The filling pass counts the annotated pods, whatever their status. -/
theorem podnum_of_fillPods {uuid : String} {pods : List Pod} {filled : List GpuMpsMap × Nat}
    (h : fillPods uuid pods = .ok filled) : filled.2 = (annotated uuid pods).length := by
  rw [fillPods_eq_foldlM] at h
  have hloop : ∀ (todo : List Pod) (acc acc' : List GpuMpsMap × Nat),
      todo.foldlM fillSlot acc = .ok acc' → acc'.2 = acc.2 + todo.length := by
    intro todo
    induction todo with
    | nil =>
        intro acc acc' h
        cases h
        rfl
    | cons pod todo ih =>
        intro acc acc' h
        rw [List.foldlM_cons] at h
        rcases bind_eq_ok.mp h with ⟨acc₁, hslot, h⟩
        rw [ih acc₁ acc' h, (fillSlot_eq_ok hslot).2.2.2, List.length_cons]
        omega
  rw [hloop _ _ _ h, Nat.zero_add]

/-- The filling pass writes one slot for each annotated pod, in order. -/
theorem fillPods_eq {uuid : String} {pods : List Pod}
    (hread : ∀ pod ∈ annotated uuid pods, pod.Readable)
    (hfits : (annotated uuid pods).length ≤ 48) :
    fillPods uuid pods = .ok ((annotated uuid pods).map Pod.slot ++
      List.replicate (48 - (annotated uuid pods).length) GpuMpsMap.empty,
      (annotated uuid pods).length) := by
  rw [fillPods_eq_foldlM]
  generalize annotated uuid pods = listed at hread hfits
  have hloop : ∀ (todo : List Pod) (done : List GpuMpsMap) (free : Nat),
      (∀ pod ∈ todo, pod.Readable) →
      todo.foldlM fillSlot
        (done ++ List.replicate (todo.length + free) GpuMpsMap.empty, done.length) =
          .ok (done ++ todo.map Pod.slot ++ List.replicate free GpuMpsMap.empty,
            done.length + todo.length) := by
    intro todo
    induction todo with
    | nil => intro done free _; simp
    | cons pod todo ih =>
        intro done free hread
        have hlength : (pod :: todo).length + free = todo.length + free + 1 := by
          rw [List.length_cons]
          omega
        rw [List.foldlM_cons, hlength, fillSlot_eq (hread pod (by simp)), ok_bind]
        have hrest := ih (done ++ [pod.slot]) free (fun p hp => hread p (by simp [hp]))
        rw [List.length_append] at hrest
        simp only [List.length_singleton] at hrest
        rw [hrest]
        simp [Nat.add_assoc, Nat.add_comm 1]
  have h := hloop listed [] (48 - listed.length) hread
  rw [show listed.length + (48 - listed.length) = 48 by omega] at h
  simpa using h

/-- The pass returns exactly if the table is large enough and every pod can be read. -/
theorem fillPods_returns_iff (uuid : String) (pods : List Pod) :
    (∃ filled, fillPods uuid pods = .ok filled) ↔
      (annotated uuid pods).length ≤ 48 ∧ ∀ pod ∈ annotated uuid pods, pod.Readable := by
  constructor
  · intro h
    rcases h with ⟨filled, hfilled⟩
    have hcount := podnum_of_fillPods hfilled
    rw [fillPods_eq_foldlM] at hfilled
    obtain ⟨hinv, hread⟩ := foldlM_inv
      (fun acc : List GpuMpsMap × Nat => acc.1.length = 48 ∧ acc.2 ≤ 48) Pod.Readable
      (by
        intro acc acc' pod _ hacc hstep
        obtain ⟨hlt, hpod, hlength, hnext⟩ := fillSlot_eq_ok hstep
        exact ⟨⟨by omega, by omega⟩, hpod⟩)
      ⟨List.length_replicate, Nat.zero_le 48⟩ hfilled
    exact ⟨hcount ▸ hinv.2, hread⟩
  · intro h
    exact ⟨_, fillPods_eq h.2 h.1⟩

/-! ## The scan -/

/-- The first of some indices at which the snapshot has this container.  A
blank is no container. -/
def firstProcess (mps : Processinfo) (id : String) (ks : List Nat) : Option Nat :=
  ks.find? fun k => id ≠ "" ∧ mps.containerID[k]? = some id

/-- The pod's container is in the snapshot. -/
def Pod.Covered (mps : Processinfo) (pod : Pod) : Prop :=
  pod.containerid ≠ "" ∧ pod.containerid ∈ mps.containerID

instance (mps : Processinfo) (pod : Pod) : Decidable (pod.Covered mps) :=
  inferInstanceAs (Decidable (_ ∧ _))

theorem firstProcess_eq_some {mps : Processinfo} {id : String} {ks : List Nat} {k : Nat}
    (h : firstProcess mps id ks = some k) : mps.containerID[k]? = some id := by
  have hk := List.find?_some h
  simp only [decide_eq_true_eq] at hk
  exact hk.2

/-- The scan acts on the first process of the pod's container. -/
theorem scanProcesses_eq {mps : Processinfo} {data : Collection} {slot : GpuMpsMap} {id : String}
    (hid : index Frame.gpumpsmetric (split '/' slot.containerID) 2 = .ok id) (i : Nat)
    (gpuPod : List PodMetric) {ks : List Nat} (hks : ∀ k ∈ ks, k < mps.containerID.length) :
    scanProcesses mps data slot i gpuPod ks =
      match firstProcess mps id ks with
      | none => .ok gpuPod
      | some k => matchProcess mps data slot i k id gpuPod := by
  induction ks with
  | nil => rfl
  | cons k ks ih =>
      have hrest := ih (fun j hj => hks j (by simp [hj]))
      obtain ⟨own, hown⟩ : ∃ own, mps.containerID[k]? = some own :=
        ⟨_, List.getElem?_eq_getElem (hks k (by simp))⟩
      unfold scanProcesses
      rw [index_of_getElem? hown, ok_bind]
      by_cases hblank : own = ""
      · -- a blank entry is skipped, and is nobody's container
        have hskip : firstProcess mps id (k :: ks) = firstProcess mps id ks := by
          unfold firstProcess
          rw [List.find?_cons_of_neg]
          simp only [decide_eq_true_eq, hown, Option.some.injEq]
          intro h
          exact h.1 (h.2.symm.trans hblank)
        rw [if_pos hblank, hrest, hskip]
      · rw [if_neg hblank, hid, ok_bind]
        by_cases hsame : own = id
        · have hfound : firstProcess mps id (k :: ks) = some k := by
            unfold firstProcess
            rw [List.find?_cons_of_pos]
            simp only [decide_eq_true_eq, hown, Option.some.injEq]
            exact ⟨hsame ▸ hblank, hsame⟩
          rw [if_pos hsame, hfound]
        · have hskip : firstProcess mps id (k :: ks) = firstProcess mps id ks := by
            unfold firstProcess
            rw [List.find?_cons_of_neg]
            simp only [decide_eq_true_eq, hown, Option.some.injEq]
            exact fun h => hsame h.2
          rw [if_neg hsame, hrest, hskip]

/-- A scan that returned left `GPUPod` alone, or ended with a match. -/
theorem scanProcesses_eq_ok {mps : Processinfo} {data : Collection} {slot : GpuMpsMap} {i : Nat}
    {gpuPod gpuPod' : List PodMetric} {ks : List Nat}
    (h : scanProcesses mps data slot i gpuPod ks = .ok gpuPod') :
    gpuPod' = gpuPod ∨ ∃ k id, matchProcess mps data slot i k id gpuPod = .ok gpuPod' := by
  induction ks with
  | nil =>
      cases h
      exact Or.inl rfl
  | cons k ks ih =>
      unfold scanProcesses at h
      rcases bind_eq_ok.mp h with ⟨id, -, h⟩
      by_cases hblank : id = ""
      · rw [if_pos hblank] at h
        exact ih h
      · rw [if_neg hblank] at h
        rcases bind_eq_ok.mp h with ⟨containerid, -, h⟩
        by_cases hsame : id = containerid
        · rw [if_pos hsame] at h
          exact Or.inr ⟨k, containerid, h⟩
        · rw [if_neg hsame] at h
          exact ih h

/-! ## One match -/

/-- What a match that succeeds leaves. -/
theorem matchProcess_eq_ok {mps : Processinfo} {data : Collection} {slot : GpuMpsMap} {i k : Nat}
    {id : String} {gpuPod gpuPod' : List PodMetric}
    (h : matchProcess mps data slot i k id gpuPod = .ok gpuPod') :
    ∃ entry, ∃ process : ProcessInfo, ∃ name, ∃ batch : MetricsBatch,
      (gpuPod ++ [({} : PodMetric)])[i]? = some entry ∧
      data.metricsbatchs[0]? = some batch ∧
      gpuPod' = (gpuPod ++ [({} : PodMetric)]).set i (withUsage batch.pods { entry with
        podGPUMemory := process.usedGpuMemory.toInt64
        podPid := process.pid
        podName := slot.pod
        processName := name
        podUid := slot.uid
        containerID := id }) := by
  unfold matchProcess at h
  rcases bind_eq_ok.mp h with ⟨entry, hentry, h⟩
  rcases bind_eq_ok.mp h with ⟨process, -, h⟩
  rcases bind_eq_ok.mp h with ⟨name, -, h⟩
  rcases bind_eq_ok.mp h with ⟨batch, hbatch, h⟩
  cases h
  exact ⟨entry, process, name, batch, index_eq_ok.mp hentry, index_eq_ok.mp hbatch, rfl⟩

/-- A match adds one entry. -/
theorem matchProcess_length {mps : Processinfo} {data : Collection} {slot : GpuMpsMap} {i k : Nat}
    {id : String} {gpuPod gpuPod' : List PodMetric}
    (h : matchProcess mps data slot i k id gpuPod = .ok gpuPod') :
    gpuPod'.length = gpuPod.length + 1 := by
  rcases matchProcess_eq_ok h with ⟨entry, process, name, batch, -, -, rfl⟩
  simp

/-- The usage figures leave the identity of an entry alone. -/
theorem withUsage_identity (pods : List PodMetricsPoint) (entry : PodMetric) :
    (withUsage pods entry).podName = entry.podName ∧
    (withUsage pods entry).podUid = entry.podUid ∧
    (withUsage pods entry).containerID = entry.containerID ∧
    (withUsage pods entry).podPid = entry.podPid ∧
    (withUsage pods entry).podGPUMemory = entry.podGPUMemory ∧
    (withUsage pods entry).processName = entry.processName := by
  unfold withUsage
  induction pods generalizing entry with
  | nil => exact ⟨rfl, rfl, rfl, rfl, rfl, rfl⟩
  | cons pod pods ih =>
      rw [List.foldl_cons]
      by_cases hname : entry.podName = pod.name
      · rw [if_pos hname]
        exact ih _
      · rw [if_neg hname]
        exact ih entry

/-- The scan for a pod ends at process `k`, which exists. -/
def MappedTo (mps : Processinfo) (pod : Pod) (k : Nat) : Prop :=
  firstProcess mps pod.containerid (List.range mps.containerID.length) = some k ∧
    k < mps.nvmlprocess.length

/-- A pod is mapped when its container stands in the snapshot at an index that
is also one of a process. -/
theorem exists_mappedTo_iff (mps : Processinfo) (pod : Pod) :
    (∃ k, MappedTo mps pod k) ↔ pod.containerid ≠ "" ∧
      ∃ i, mps.containerID[i]? = some pod.containerid ∧ i < mps.nvmlprocess.length := by
  unfold MappedTo firstProcess
  constructor
  · intro h
    rcases h with ⟨k, hfirst, hk⟩
    have hfound := List.find?_some hfirst
    simp only [decide_eq_true_eq] at hfound
    exact ⟨hfound.1, k, hfound.2, hk⟩
  · intro h
    rcases h with ⟨hid, i, hi, hlt⟩
    have hrange : i < mps.containerID.length := (List.getElem?_eq_some_iff.mp hi).1
    have hsome : ((List.range mps.containerID.length).find? fun k =>
        decide (pod.containerid ≠ "" ∧ mps.containerID[k]? = some pod.containerid)).isSome := by
      rw [List.find?_isSome]
      exact ⟨i, List.mem_range.mpr hrange, by simp [hid, hi]⟩
    obtain ⟨k, hk⟩ := Option.isSome_iff_exists.mp hsome
    refine ⟨k, hk, ?_⟩
    -- the scan stops at `i` at the latest
    have hearlier := (List.find?_range_eq_some.mp hk).2.2
    by_contra hlate
    have hskipped := hearlier i (by omega)
    simp [hid, hi] at hskipped

/-- The entry carries the pod's identity and the figures of process `k`. -/
structure EntryAt (mps : Processinfo) (k : Nat) (pod : Pod) (entry : PodMetric) : Prop where
  podName : entry.podName = pod.name
  podUid : entry.podUid = pod.uid
  containerID : entry.containerID = pod.containerid
  process : ∃ process, mps.nvmlprocess[k]? = some process ∧ entry.podPid = process.pid ∧
    entry.podGPUMemory = process.usedGpuMemory.toInt64
  processName : mps.name[k]? = some entry.processName

/-- A match at the end of `GPUPod` fills the entry it appends. -/
theorem matchProcess_eq {mps : Processinfo} {data : Collection} {pod : Pod} {k : Nat}
    (hk : k < mps.nvmlprocess.length) (hname : mps.name.length = mps.nvmlprocess.length)
    (hdata : data.metricsbatchs ≠ []) (gpuPod : List PodMetric) :
    ∃ entry, matchProcess mps data pod.slot gpuPod.length k pod.containerid gpuPod =
      .ok (gpuPod ++ [entry]) ∧ EntryAt mps k pod entry := by
  obtain ⟨process, hprocess⟩ : ∃ process, mps.nvmlprocess[k]? = some process :=
    ⟨_, List.getElem?_eq_getElem hk⟩
  obtain ⟨name, hnamek⟩ : ∃ name, mps.name[k]? = some name :=
    ⟨_, List.getElem?_eq_getElem (by omega)⟩
  obtain ⟨batch, batches, hbatches⟩ := List.exists_cons_of_ne_nil hdata
  have hbatch : index Frame.gpumpsmetric data.metricsbatchs 0 = .ok batch := by
    rw [hbatches]
    rfl
  have hfresh : index Frame.gpumpsmetric (gpuPod ++ [({} : PodMetric)]) gpuPod.length =
      .ok ({} : PodMetric) := by
    apply index_of_getElem?
    simp
  simp only [matchProcess, hfresh, index_of_getElem? hprocess, index_of_getElem? hnamek, hbatch,
    ok_bind, pure_eq_ok]
  obtain ⟨h₁, h₂, h₃, h₄, h₅, h₆⟩ := withUsage_identity batch.pods
    { podGPUMemory := process.usedGpuMemory.toInt64
      podPid := process.pid
      podName := pod.slot.pod
      processName := name
      podUid := pod.slot.uid
      containerID := pod.containerid }
  refine ⟨_, ?_, h₁, h₂, h₃, ⟨process, hprocess, h₄, h₅⟩, hnamek.trans (congrArg some h₆.symm)⟩
  simp

/-! ## The mapping loop -/

section Loop

variable {mps : Processinfo} {data : Collection} {gpumpsmap : List GpuMpsMap}

theorem mapTurn_eq {pod : Pod} (hwell : pod.WellFormed) {i : Nat}
    (hslot : gpumpsmap[i]? = some pod.slot) (gpuPod : List PodMetric) :
    mapTurn mps data gpumpsmap gpuPod i =
      match firstProcess mps pod.containerid (List.range mps.containerID.length) with
      | none => .ok gpuPod
      | some k => matchProcess mps data pod.slot i k pod.containerid gpuPod := by
  unfold mapTurn
  rw [index_of_getElem? hslot, ok_bind]
  exact scanProcesses_eq hwell.index_containerid i gpuPod fun k hk => List.mem_range.mp hk

/-- A turn adds at most one entry, and one only for a pod that is mapped. -/
theorem mapTurn_bound {pod : Pod} (hwell : pod.WellFormed) {i : Nat}
    (hslot : gpumpsmap[i]? = some pod.slot) {gpuPod gpuPod' : List PodMetric}
    (h : mapTurn mps data gpumpsmap gpuPod i = .ok gpuPod') :
    gpuPod'.length ≤ gpuPod.length + 1 ∧
      (gpuPod'.length = gpuPod.length + 1 → ∃ k, MappedTo mps pod k) := by
  rw [mapTurn_eq hwell hslot] at h
  cases hfirst : firstProcess mps pod.containerid (List.range mps.containerID.length) with
  | none =>
      rw [hfirst] at h
      cases h
      exact ⟨by omega, fun hlength => by omega⟩
  | some k =>
      rw [hfirst] at h
      refine ⟨(matchProcess_length h).le, fun _ => ⟨k, hfirst, ?_⟩⟩
      unfold matchProcess at h
      rcases bind_eq_ok.mp h with ⟨entry, -, h⟩
      rcases bind_eq_ok.mp h with ⟨process, hprocess, -⟩
      exact (List.getElem?_eq_some_iff.mp (index_eq_ok.mp hprocess)).1

/-- A turn for a mapped pod appends its entry, if the pods before it have theirs. -/
theorem mapTurn_of_mappedTo (hname : mps.name.length = mps.nvmlprocess.length)
    (hdata : data.metricsbatchs ≠ []) {pod : Pod} (hwell : pod.WellFormed) {k : Nat}
    (hk : MappedTo mps pod k) {gpuPod : List PodMetric}
    (hslot : gpumpsmap[gpuPod.length]? = some pod.slot) :
    ∃ entry, mapTurn mps data gpumpsmap gpuPod gpuPod.length = .ok (gpuPod ++ [entry]) ∧
      EntryAt mps k pod entry := by
  rw [mapTurn_eq hwell hslot, hk.1]
  exact matchProcess_eq hk.2 hname hdata gpuPod

variable {listed : List Pod}

/-- After `j` turns there are at most `j` entries, and `j` only if each of the
first `j` pods is mapped. -/
theorem mapPods_bound (hwell : ∀ pod ∈ listed, pod.WellFormed)
    (hslots : ∀ (i : Nat) (pod : Pod), listed[i]? = some pod → gpumpsmap[i]? = some pod.slot)
    {j : Nat} (hj : j ≤ listed.length) {gpuPod : List PodMetric}
    (h : mapPods mps data gpumpsmap j [] = .ok gpuPod) :
    gpuPod.length ≤ j ∧
      (gpuPod.length = j → ∀ pod ∈ listed.take j, ∃ k, MappedTo mps pod k) := by
  induction j generalizing gpuPod with
  | zero =>
      cases h
      exact ⟨le_rfl, by simp⟩
  | succ j ih =>
      unfold mapPods at h
      rw [foldlM_range_succ] at h
      rcases bind_eq_ok.mp h with ⟨before, hbefore, hturn⟩
      obtain ⟨hbound, hmapped⟩ := ih (by omega) hbefore
      have hpod : listed[j]? = some listed[j] := List.getElem?_eq_getElem (by omega)
      obtain ⟨hstep, hnew⟩ := mapTurn_bound (hwell _ (List.mem_of_getElem? hpod))
        (hslots j _ hpod) hturn
      refine ⟨by omega, ?_⟩
      intro hlength pod hmem
      rw [List.take_add_one, hpod, List.mem_append] at hmem
      rcases hmem with hmem | hmem
      · exact hmapped (by omega) pod hmem
      · rw [Option.toList_some, List.mem_singleton] at hmem
        rw [hmem]
        exact hnew (by omega)

/-- If every pod is mapped, the first `j` turns leave the first `j` entries. -/
theorem mapPods_of_mapped (hname : mps.name.length = mps.nvmlprocess.length)
    (hdata : data.metricsbatchs ≠ []) (hwell : ∀ pod ∈ listed, pod.WellFormed)
    (hslots : ∀ (i : Nat) (pod : Pod), listed[i]? = some pod → gpumpsmap[i]? = some pod.slot)
    (hmapped : ∀ pod ∈ listed, ∃ k, MappedTo mps pod k) {j : Nat} (hj : j ≤ listed.length) :
    ∃ gpuPod, mapPods mps data gpumpsmap j [] = .ok gpuPod ∧
      List.Forall₂ (fun pod entry => ∃ k, MappedTo mps pod k ∧ EntryAt mps k pod entry)
        (listed.take j) gpuPod := by
  induction j with
  | zero => exact ⟨[], rfl, by simp⟩
  | succ j ih =>
      obtain ⟨before, hbefore, hentries⟩ := ih (by omega)
      have hlength : before.length = j := by
        rw [← hentries.length_eq, List.length_take]
        omega
      have hpod : listed[j]? = some listed[j] := List.getElem?_eq_getElem (by omega)
      have hmem := List.mem_of_getElem? hpod
      obtain ⟨k, hk⟩ := hmapped _ hmem
      have hslot : gpumpsmap[before.length]? = some listed[j].slot := by
        rw [hlength]
        exact hslots j _ hpod
      obtain ⟨entry, hturn, hentry⟩ := mapTurn_of_mappedTo hname hdata (hwell _ hmem) hk hslot
      refine ⟨before ++ [entry], ?_, ?_⟩
      · unfold mapPods at hbefore ⊢
        rw [foldlM_range_succ, hbefore, ok_bind, ← hlength]
        exact hturn
      · rw [List.take_add_one, hpod, Option.toList_some]
        exact List.rel_append hentries (List.Forall₂.cons ⟨k, hk, hentry⟩ List.Forall₂.nil)

end Loop

/-! ## The whole collection -/

/-- The write loop needs one entry for each slot. -/
theorem writePods_returns_iff (uuid : String) (gpuPod : List PodMetric) (podnum : Nat) :
    (∃ points, writePods uuid gpuPod podnum = .ok points) ↔ podnum ≤ gpuPod.length := by
  constructor
  · intro h
    rcases h with ⟨points, hpoints⟩
    by_contra hshort
    obtain ⟨-, hitems⟩ := mapM_eq_ok hpoints
    obtain ⟨point, hpoint, -⟩ := hitems gpuPod.length gpuPod.length
      (List.getElem?_range (by omega))
    rw [index_of_le le_rfl, error_bind] at hpoint
    cases hpoint
  · intro h
    apply exists_mapM_eq_ok
    intro i hi
    rw [List.mem_range] at hi
    have hlt : i < gpuPod.length := by omega
    obtain ⟨entry, hentry⟩ := exists_index_of_lt Frame.gpumpsmetric hlt
    rw [hentry, ok_bind]
    exact ⟨_, rfl⟩

section Collection

variable {uuid : String} {pods : List Pod} {mps : Processinfo} {data : Collection}
variable (podmap : List PodGPU) {gpu : GrpcGPU}

/-- The slots that the filling pass leaves. -/
def slots (uuid : String) (pods : List Pod) : List GpuMpsMap :=
  (annotated uuid pods).map Pod.slot ++
    List.replicate (48 - (annotated uuid pods).length) GpuMpsMap.empty

/-- They are what the mapping loop needs. -/
theorem slots_getElem? (i : Nat) (pod : Pod) (hpod : (annotated uuid pods)[i]? = some pod) :
    (slots uuid pods)[i]? = some pod.slot := by
  have hlt : i < (annotated uuid pods).length := (List.getElem?_eq_some_iff.mp hpod).1
  unfold slots
  rw [List.getElem?_append_left (by rw [List.length_map]; exact hlt), List.getElem?_map, hpod]
  rfl

/-- The collection returns the number of annotated pods. -/
theorem podnum_of_collectPods {out : Collected}
    (h : collectPods uuid data pods mps podmap gpu = .ok out) :
    out.podnum = (annotated uuid pods).length := by
  unfold collectPods at h
  rcases bind_eq_ok.mp h with ⟨filled, hfill, h⟩
  rcases bind_eq_ok.mp h with ⟨gpuPod, -, h⟩
  rcases bind_eq_ok.mp h with ⟨points, -, h⟩
  cases h
  exact podnum_of_fillPods hfill

/-- What is left of the collection once the slots are filled. -/
theorem collectPods_eq (hwell : ∀ pod ∈ annotated uuid pods, pod.WellFormed)
    (hfits : (annotated uuid pods).length ≤ 48) (hempty : gpu.gpuPod = []) :
    collectPods uuid data pods mps podmap gpu =
      (mapPods mps data (slots uuid pods) (annotated uuid pods).length [] >>= fun gpuPod =>
        writePods uuid gpuPod (annotated uuid pods).length >>= fun points =>
          .ok ⟨(annotated uuid pods).length, (trackPods podmap { gpu with gpuPod := gpuPod }).2,
            (trackPods podmap { gpu with gpuPod := gpuPod }).1, points⟩) := by
  unfold collectPods
  rw [fillPods_eq (fun pod hpod => (hwell pod hpod).readable) hfits, ok_bind, hempty]
  rfl

/-- The collection gets through only if every annotated pod is mapped. -/
theorem mapped_of_collectPods (hwell : ∀ pod ∈ annotated uuid pods, pod.WellFormed)
    (hfits : (annotated uuid pods).length ≤ 48) (hempty : gpu.gpuPod = []) {out : Collected}
    (h : collectPods uuid data pods mps podmap gpu = .ok out) :
    ∀ pod ∈ annotated uuid pods, ∃ k, MappedTo mps pod k := by
  rw [collectPods_eq podmap hwell hfits hempty] at h
  rcases bind_eq_ok.mp h with ⟨gpuPod, hmap, h⟩
  rcases bind_eq_ok.mp h with ⟨points, hwrite, -⟩
  have hlong := (writePods_returns_iff _ _ _).mp ⟨points, hwrite⟩
  obtain ⟨hbound, hmapped⟩ := mapPods_bound hwell slots_getElem? le_rfl hmap
  have hall := hmapped (le_antisymm hbound hlong)
  rw [List.take_length] at hall
  exact hall

/-- If every annotated pod is mapped, the collection leaves their entries. -/
theorem collectPods_of_mapped (hname : mps.name.length = mps.nvmlprocess.length)
    (hdata : data.metricsbatchs ≠ []) (hwell : ∀ pod ∈ annotated uuid pods, pod.WellFormed)
    (hfits : (annotated uuid pods).length ≤ 48) (hempty : gpu.gpuPod = [])
    (hmapped : ∀ pod ∈ annotated uuid pods, ∃ k, MappedTo mps pod k) :
    ∃ out, collectPods uuid data pods mps podmap gpu = .ok out ∧
      out.podnum = (annotated uuid pods).length ∧
      List.Forall₂ (fun pod entry => ∃ k, MappedTo mps pod k ∧ EntryAt mps k pod entry)
        (annotated uuid pods) out.gpu.gpuPod := by
  obtain ⟨gpuPod, hmap, hentries⟩ :=
    mapPods_of_mapped hname hdata hwell slots_getElem? hmapped le_rfl
  rw [List.take_length] at hentries
  obtain ⟨points, hwrite⟩ :=
    (writePods_returns_iff uuid gpuPod (annotated uuid pods).length).mpr hentries.length_eq.le
  rw [collectPods_eq podmap hwell hfits hempty, hmap, ok_bind, hwrite, ok_bind]
  exact ⟨_, rfl, rfl, hentries⟩

end Collection

/-! ## The right entries -/

/-- The entry of a pod: its identity, and the figures of a process of its
container. -/
structure EntryOf (host : Host) (processes : List ProcessInfo) (pod : Pod) (entry : PodMetric) :
    Prop where
  podName : entry.podName = pod.name
  podUid : entry.podUid = pod.uid
  containerID : entry.containerID = pod.containerid
  process : ∃ process ∈ processes, host.container process.pid = pod.containerid ∧
    entry.podPid = process.pid ∧ entry.podGPUMemory = process.usedGpuMemory.toInt64 ∧
    entry.processName = host.processName process.pid

/-- The collection returns, with one right entry for each annotated pod. -/
def MapsEach (host : Host) (processes : List ProcessInfo) (uuid : String) (pods : List Pod)
    (run : Exec Collected) : Prop :=
  ∃ out, run = .ok out ∧ out.podnum = (annotated uuid pods).length ∧
    List.Forall₂ (EntryOf host processes) (annotated uuid pods) out.gpu.gpuPod

/-- What an aligned snapshot says of the process at an index. -/
theorem entryOf_entryAt {host : Host} {processes : List ProcessInfo} {mps : Processinfo}
    {mpscount : Nat} (hsnapshot : getgpuprocess host processes = .ok (mps, mpscount))
    (haligned : Aligned host processes mps) {pod : Pod} {k : Nat} {entry : PodMetric}
    (hk : MappedTo mps pod k) (hentry : EntryAt mps k pod entry) :
    EntryOf host processes pod entry := by
  obtain ⟨process, hprocess, hpid, hmemory⟩ := hentry.process
  rw [haligned.nvmlprocess] at hprocess
  have hid := haligned.own k process hprocess
  rw [firstProcess_eq_some hk.1, Option.some.injEq] at hid
  refine ⟨hentry.podName, hentry.podUid, hentry.containerID, process,
    List.mem_of_getElem? hprocess, hid.symm, hpid, hmemory, ?_⟩
  rw [getgpuprocess_eq] at hsnapshot
  rcases bind_eq_ok.mp hsnapshot with ⟨cs, -, hmps⟩
  cases hmps
  have hname := hentry.processName
  rw [snapshotOf, List.getElem?_map, hprocess] at hname
  exact (Option.some.inj hname).symm

/-- In an aligned snapshot the covered pods are the mapped ones. -/
theorem exists_mappedTo_iff_covered {host : Host} {processes : List ProcessInfo}
    {mps : Processinfo} (haligned : Aligned host processes mps) (pod : Pod) :
    (∃ k, MappedTo mps pod k) ↔ pod.Covered mps := by
  rw [exists_mappedTo_iff]
  unfold Pod.Covered
  apply and_congr_right
  intro hid
  rw [List.mem_iff_getElem?]
  constructor
  · intro h
    rcases h with ⟨i, hi, -⟩
    exact ⟨i, hi⟩
  · intro h
    rcases h with ⟨i, hi⟩
    have hlt : i < mps.containerID.length := (List.getElem?_eq_some_iff.mp hi).1
    have hcontainers := haligned.containers
    refine ⟨i, hi, ?_⟩
    rw [haligned.nvmlprocess]
    omega

/-- The mapping of an aligned snapshot is complete exactly when every annotated
pod has its container in the snapshot. -/
theorem mapping_complete_iff {host : Host} {processes : List ProcessInfo} {mps : Processinfo}
    {mpscount : Nat} (hsnapshot : getgpuprocess host processes = .ok (mps, mpscount))
    (haligned : Aligned host processes mps) {uuid : String} {pods : List Pod}
    (hwell : ∀ pod ∈ annotated uuid pods, pod.WellFormed)
    (hfits : (annotated uuid pods).length ≤ 48) {data : Collection}
    (hdata : data.metricsbatchs ≠ []) (podmap : List PodGPU) {gpu : GrpcGPU}
    (hempty : gpu.gpuPod = []) :
    MapsEach host processes uuid pods (collectPods uuid data pods mps podmap gpu) ↔
      ∀ pod ∈ annotated uuid pods, pod.Covered mps := by
  constructor
  · intro h pod hpod
    rcases h with ⟨out, hrun, -⟩
    exact (exists_mappedTo_iff_covered haligned pod).mp
      (mapped_of_collectPods podmap hwell hfits hempty hrun pod hpod)
  · intro h
    have hname : mps.name.length = mps.nvmlprocess.length := by
      rw [haligned.names, haligned.nvmlprocess]
    obtain ⟨out, hrun, hpodnum, hentries⟩ :=
      collectPods_of_mapped podmap hname hdata hwell hfits hempty
        fun pod hpod => (exists_mappedTo_iff_covered haligned pod).mpr (h pod hpod)
    refine ⟨out, hrun, hpodnum, hentries.imp ?_⟩
    intro pod entry hentry
    rcases hentry with ⟨k, hk, hat⟩
    exact entryOf_entryAt hsnapshot haligned hk hat

/-- A running pod with one container on `GPU-0`. -/
def runningPod (name id : String) : Pod where
  uid := name ++ "-uid"
  name := name
  annotations := [("UUID", "GPU-0")]
  containers := ["main"]
  containerStatuses := [⟨"containerd://" ++ id, some 0⟩]

theorem runningPod_wellFormed {name id : String}
    (h : 2 < (split '/' ("containerd://" ++ id)).length) : (runningPod name id).WellFormed :=
  ⟨List.cons_ne_nil _ _, ⟨_, _, _, rfl, rfl⟩, h⟩

/-- A host that runs every process in container `abc`. -/
def sharedHost : Host where
  readFile _ := some "1:cpu:/kubepods/besteffort/pod7/abc\n"
  processName _ := "python"
  container _ := "abc"

/-- A host that runs process 1 in container `def` and every other in `abc`. -/
def crossedHost : Host where
  readFile path :=
    if path = "/proc/1/cgroup" then some "1:cpu:/kubepods/besteffort/pod8/def\n"
    else some "1:cpu:/kubepods/besteffort/pod7/abc\n"
  processName pid := if pid = 1 then "trainer" else "python"
  container pid := if pid = 1 then "def" else "abc"

/-- Two pods are mapped, whose processes are listed the other way round. -/
theorem mapping_complete_for_crossed_pods :
    MapsEach crossedHost [⟨1, 10⟩, ⟨2, 20⟩] "GPU-0" [runningPod "a" "abc", runningPod "b" "def"]
      (collectPods "GPU-0" ⟨[{}]⟩ [runningPod "a" "abc", runningPod "b" "def"]
        ⟨[⟨1, 10⟩, ⟨2, 20⟩], ["trainer", "python"], ["def", "abc"]⟩ [] {}) := by
  have hsnapshot : getgpuprocess crossedHost [⟨1, 10⟩, ⟨2, 20⟩] =
      .ok (⟨[⟨1, 10⟩, ⟨2, 20⟩], ["trainer", "python"], ["def", "abc"]⟩, 2) := by
    decide
  have haligned : Aligned crossedHost [⟨1, 10⟩, ⟨2, 20⟩]
      ⟨[⟨1, 10⟩, ⟨2, 20⟩], ["trainer", "python"], ["def", "abc"]⟩ :=
    (@aligned_iff _ _ [{ entry := some "def" }, { entry := some "abc" }]).mpr rfl
  have hlisted : annotated "GPU-0" [runningPod "a" "abc", runningPod "b" "def"] =
      [runningPod "a" "abc", runningPod "b" "def"] := by
    decide
  refine (mapping_complete_iff hsnapshot haligned ?_ ?_ (by simp) [] rfl).mpr ?_
  · intro pod hpod
    rw [hlisted] at hpod
    rcases List.mem_pair.mp hpod with rfl | rfl
    · exact runningPod_wellFormed (by decide)
    · exact runningPod_wellFormed (by decide)
  · decide
  · decide

/-- Two pods and two processes of the first: the counts agree, and the write
loop runs past the entries. -/
theorem mapping_faults_for_two_processes_of_one_pod :
    ∃ mps, getgpuprocess sharedHost [⟨1, 10⟩, ⟨2, 20⟩] = .ok (mps, 2) ∧
      Aligned sharedHost [⟨1, 10⟩, ⟨2, 20⟩] mps ∧
      (annotated "GPU-0" [runningPod "a" "abc", runningPod "b" "def"]).length = 2 ∧
      (∀ pod ∈ annotated "GPU-0" [runningPod "a" "abc", runningPod "b" "def"], pod.WellFormed) ∧
      ¬MapsEach sharedHost [⟨1, 10⟩, ⟨2, 20⟩] "GPU-0" [runningPod "a" "abc", runningPod "b" "def"]
        (collectPods "GPU-0" ⟨[{}]⟩ [runningPod "a" "abc", runningPod "b" "def"] mps [] {}) := by
  have hsnapshot : getgpuprocess sharedHost [⟨1, 10⟩, ⟨2, 20⟩] =
      .ok (⟨[⟨1, 10⟩, ⟨2, 20⟩], ["python", "python"], ["abc", "abc"]⟩, 2) := by
    decide
  have hlisted : annotated "GPU-0" [runningPod "a" "abc", runningPod "b" "def"] =
      [runningPod "a" "abc", runningPod "b" "def"] := by
    decide
  have haligned : Aligned sharedHost [⟨1, 10⟩, ⟨2, 20⟩]
      ⟨[⟨1, 10⟩, ⟨2, 20⟩], ["python", "python"], ["abc", "abc"]⟩ :=
    (@aligned_iff _ _ [{ entry := some "abc" }, { entry := some "abc" }]).mpr rfl
  refine ⟨_, hsnapshot, haligned, by decide, ?_, ?_⟩
  · rw [hlisted]
    intro pod hpod
    rcases List.mem_pair.mp hpod with rfl | rfl
    · exact runningPod_wellFormed (by decide)
    · exact runningPod_wellFormed (by decide)
  · intro h
    rcases h with ⟨out, hrun, -⟩
    have hfault : collectPods "GPU-0" ⟨[{}]⟩ [runningPod "a" "abc", runningPod "b" "def"]
        ⟨[⟨1, 10⟩, ⟨2, 20⟩], ["python", "python"], ["abc", "abc"]⟩ [] {} =
          .error ⟨.indexOutOfRange, .gpumpsmetric⟩ := by
      decide
    rw [hfault] at hrun
    cases hrun

end MetricCollector.Gpumpsmetric
