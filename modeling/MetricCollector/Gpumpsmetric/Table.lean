import Mathlib.Data.List.Nodup
import MetricCollector.Gpumpsmetric.Extraction
import MetricCollector.Gpumpsmetric.Retry

/-!
# The pod table

The filling pass and the mapping pass work on a table of 48 slots, and read
fields of a pod that the API server may leave out: its containers, their
statuses, the time since when the first one runs, and its ID.  The retry loop
only compares two counts, so any pod list can get to the table.

* `tableSafe_of_wellFormed` and `scheme_of_tableSafe` are the mapping pass on a
  table that could be filled.
* `exists_accepted` makes an attempt that is accepted with a given list.
* `tableSafe_iff` says for which lists no such attempt leads to a fault.
-/

namespace MetricCollector.Gpumpsmetric

open GoLib Parallel Grpcs Storage

/-- The filling pass returns, and each turn of the mapping pass finds its slot
and, when there is an ID to compare with, a container ID in the slot. -/
def TableSafe (uuid : String) (pods : List Pod) (mps : Processinfo) (data : Collection)
    (gpuPod : List PodMetric) : Prop :=
  ∃ filled, fillPods uuid pods = .ok filled ∧
    ∀ i < filled.2, ∀ reached, mapPods mps data filled.1 i gpuPod = .ok reached →
      ∃ slot, index Frame.gpumpsmetric filled.1 i = .ok slot ∧
        ((∃ id ∈ mps.containerID, id ≠ "") →
          ∃ containerid, index Frame.gpumpsmetric (split '/' slot.containerID) 2 = .ok containerid)

/-! ## A container that no pod has -/

/-- Names of different lengths. -/
def freshName (k : Nat) : String := String.ofList (List.replicate (k + 1) 'a')

theorem length_freshName (k : Nat) : (freshName k).toList.length = k + 1 := by
  rw [freshName, String.toList_ofList, List.length_replicate]

theorem not_mem_freshName {c : Char} (h : c ≠ 'a') (k : Nat) : c ∉ (freshName k).toList := by
  rw [freshName, String.toList_ofList]
  intro hmem
  exact h (List.eq_of_mem_replicate hmem)

theorem freshName_ne_empty (k : Nat) : freshName k ≠ "" := by
  intro h
  have hlength := length_freshName k
  rw [h] at hlength
  exact absurd hlength (by simp)

/-- One of the first names is not in a shorter list. -/
theorem exists_freshName {ids : List String} {n : Nat} (h : ids.length < n) :
    ∃ k < n, freshName k ∉ ids := by
  by_contra hall
  have hmem : ∀ k < n, freshName k ∈ ids := by
    intro k hk
    by_contra hnot
    exact hall ⟨k, hk, hnot⟩
  have hnodup : ((List.range n).map freshName).Nodup := by
    apply List.nodup_range.map
    intro k k' hsame
    have hlength := congrArg (fun name : String => name.toList.length) hsame
    simp only [length_freshName] at hlength
    omega
  have hsubset : (List.range n).map freshName ⊆ ids := by
    intro name hname
    obtain ⟨k, hk, rfl⟩ := List.mem_map.mp hname
    exact hmem k (List.mem_range.mp hk)
  have hle := (List.subperm_of_subset hnodup hsubset).length_le
  rw [List.length_map, List.length_range] at hle
  omega

/-! ## An attempt that is accepted -/

/-- The directory of a pod. -/
def podDirectory : String := "1:cpu:/kubepods/besteffort/pod7"

/-- The cgroup line of a process in this container of the pod. -/
def containerLine (id : String) : String := podDirectory ++ "/" ++ id

/-- A host whose processes all run in this container. -/
def hostOf (id : String) : Host where
  readFile _ := some (containerLine id ++ "\n")
  processName _ := "python"
  container _ := id

theorem toList_containerLine (k : Nat) :
    (containerLine (freshName k)).toList =
      podDirectory.toList ++ ['/'] ++ List.replicate (k + 1) 'a' := by
  have hname : (freshName k).toList = List.replicate (k + 1) 'a' := String.toList_ofList
  rw [containerLine, String.toList_append, String.toList_append, hname]
  rfl

theorem scanLines_containerLine {k : Nat} (hk : k < 100) :
    scanLines (containerLine (freshName k) ++ "\n") = [containerLine (freshName k)] := by
  have hsize : (podDirectory.toList.map Char.utf8Size).sum = 31 := by decide
  have hlast : (List.replicate (k + 1) 'a').getLast? = some 'a' := by
    rw [List.getLast?_replicate, if_neg (Nat.succ_ne_zero k)]
  apply scanLines_line
  · rw [toList_containerLine]
    intro h
    rcases List.mem_append.mp h with h | h
    · exact absurd h (by decide)
    · exact absurd (List.eq_of_mem_replicate h) (by decide)
  · rw [toList_containerLine, List.getLast?_append, hlast]
    decide
  · rw [toList_containerLine, List.map_append, List.map_append, List.sum_append, List.sum_append,
      hsize, List.map_replicate, List.sum_replicate_nat]
    have hone : Char.utf8Size 'a' = 1 := rfl
    have hslash : (['/'].map Char.utf8Size).sum = 1 := rfl
    rw [hone, hslash]
    unfold maxScanTokenSize
    omega

theorem cgroupLine_containerLine (k : Nat) :
    cgroupLine (containerLine (freshName k)) = .ok (.container (freshName k)) := by
  have hsplit : split '/' (containerLine (freshName k)) =
      ["1:cpu:", "kubepods", "besteffort", "pod7", freshName k] := by
    have happend := split_append '/' podDirectory (freshName k)
    rw [split_of_not_mem (not_mem_freshName (by decide) k)] at happend
    have hparts : split '/' podDirectory = ["1:cpu:", "kubepods", "besteffort", "pod7"] := by
      decide
    rw [hparts] at happend
    exact happend
  have hroot : (split '/' (containerLine (freshName k)))[1]? = some "kubepods" := by
    rw [hsplit]
    rfl
  rw [cgroupLine_of_root hroot, if_pos (Or.inl rfl), hsplit]
  show Except.ok (CgroupLine.container (leafID (freshName k))) = _
  rw [leafID_of_not_mem (not_mem_freshName (by decide) k)]

/-- Each process of such a host contributes the container. -/
theorem contribution_hostOf {k : Nat} (hk : k < 100) (process : ProcessInfo) :
    (hostOf (freshName k)).contribution process = .ok { entry := some (freshName k) } := by
  unfold Host.contribution
  show readCgroup (scanLines (containerLine (freshName k) ++ "\n")) = _
  rw [scanLines_containerLine hk, readCgroup, cgroupLine_containerLine, ok_bind]
  rfl

theorem recorded_replicate (id : String) (n : Nat) :
    recorded "" (List.replicate n { entry := some id }) = List.replicate n id := by
  induction n with
  | zero => rfl
  | succ n ih =>
      rw [List.replicate_succ, recorded_cons, ih]
      rfl

theorem countEntries_replicate (id : String) (n : Nat) :
    countEntries (List.replicate n { entry := some id }) = n := by
  simp [countEntries]

/-- The snapshot of such a host has the container once for each process. -/
theorem getgpuprocess_hostOf {k : Nat} (hk : k < 100) (processes : List ProcessInfo) :
    ∃ mps, getgpuprocess (hostOf (freshName k)) processes = .ok (mps, processes.length) ∧
      mps.containerID = List.replicate processes.length (freshName k) := by
  have hcs : processes.mapM (hostOf (freshName k)).contribution =
      .ok (List.replicate processes.length { entry := some (freshName k) }) := by
    induction processes with
    | nil => rfl
    | cons process processes ih =>
        rw [List.mapM_cons, contribution_hostOf hk, ok_bind, ih, ok_bind]
        rfl
  refine ⟨snapshotOf (hostOf (freshName k)) processes
    (List.replicate processes.length { entry := some (freshName k) }), ?_, ?_⟩
  · rw [getgpuprocess_eq, hcs, ok_bind, countEntries_replicate]
  · exact recorded_replicate _ _

/-- Any list with annotated pods can be accepted, and with a snapshot of one
container. -/
theorem exists_accepted {uuid : String} {pods : List Pod} (hsome : annotated uuid pods ≠ [])
    {k : Nat} (hk : k < 100) :
    ∃ attempt mps, attemptOnce uuid attempt = .ok (mps, some pods) ∧
      freshName k ∈ mps.containerID ∧ ∀ id ∈ mps.containerID, id = freshName k := by
  have hpos : (annotated uuid pods).length ≠ 0 := fun h => hsome (List.length_eq_zero_iff.mp h)
  let processes : List ProcessInfo := List.replicate (annotated uuid pods).length ⟨1, 0⟩
  let attempt : Attempt := ⟨hostOf (freshName k), processes, [some pods]⟩
  have hlength : processes.length = (annotated uuid pods).length := List.length_replicate
  rcases getgpuprocess_hostOf hk processes with ⟨mps, hsnapshot, hids⟩
  rw [hlength] at hsnapshot hids
  have hpods : attempt.getpodlist = some pods := by
    simp [Attempt.getpodlist, attempt]
  refine ⟨attempt, mps, ?_, ?_, ?_⟩
  · rw [attemptOnce_eq hpods hsnapshot, if_pos ⟨rfl, hpos⟩]
  · rw [hids]
    exact List.mem_replicate.mpr ⟨hpos, rfl⟩
  · intro id hid
    rw [hids] at hid
    exact List.eq_of_mem_replicate hid

/-! ## Both passes -/

/-- A turn of the mapping pass that finds no process of its container leaves
`GPUPod` alone. -/
theorem mapTurn_of_not_mem {mps : Processinfo} {data : Collection} {table : List GpuMpsMap}
    {i : Nat} {slot : GpuMpsMap} (hslot : table[i]? = some slot) {id : String}
    (hid : index Frame.gpumpsmetric (split '/' slot.containerID) 2 = .ok id)
    (hnot : id ∉ mps.containerID) (gpuPod : List PodMetric) :
    mapTurn mps data table gpuPod i = .ok gpuPod := by
  have hnone : firstProcess mps id (List.range mps.containerID.length) = none := by
    cases hfirst : firstProcess mps id (List.range mps.containerID.length) with
    | none => rfl
    | some k => exact absurd (List.mem_of_getElem? (firstProcess_eq_some hfirst)) hnot
  unfold mapTurn
  rw [index_of_getElem? hslot, ok_bind,
    scanProcesses_eq hid i gpuPod (fun k hk => List.mem_range.mp hk), hnone]

theorem tableSafe_of_wellFormed {uuid : String} {pods : List Pod}
    (hfits : (annotated uuid pods).length ≤ 48)
    (hwell : ∀ pod ∈ annotated uuid pods, pod.WellFormed) (mps : Processinfo) (data : Collection)
    (gpuPod : List PodMetric) : TableSafe uuid pods mps data gpuPod := by
  refine ⟨_, fillPods_eq (fun pod hpod => (hwell pod hpod).readable) hfits, ?_⟩
  intro i hi _ _
  have hget : (annotated uuid pods)[i]? = some (annotated uuid pods)[i] :=
    List.getElem?_eq_getElem hi
  refine ⟨_, index_of_getElem? (slots_getElem? i _ hget), ?_⟩
  intro _
  exact ⟨_, (hwell _ (List.getElem_mem hi)).index_containerid⟩

/-- With a snapshot whose containers are of none of the pods, every turn is
reached, and has to find its container ID. -/
theorem scheme_of_tableSafe {uuid : String} {pods : List Pod} {mps : Processinfo}
    {data : Collection} (hfits : (annotated uuid pods).length ≤ 48)
    (hread : ∀ pod ∈ annotated uuid pods, pod.Readable)
    (hid : ∃ id ∈ mps.containerID, id ≠ "")
    (hfresh : ∀ pod ∈ annotated uuid pods, pod.containerid ∉ mps.containerID)
    (h : TableSafe uuid pods mps data []) :
    ∀ pod ∈ annotated uuid pods, 2 < (split '/' pod.slot.containerID).length := by
  rcases h with ⟨filled, hfilled, hturns⟩
  rw [fillPods_eq hread hfits] at hfilled
  cases hfilled
  have hreached : ∀ i ≤ (annotated uuid pods).length,
      mapPods mps data (slots uuid pods) i [] = .ok [] ∧
        ∀ pod ∈ (annotated uuid pods).take i, 2 < (split '/' pod.slot.containerID).length := by
    intro i hi
    induction i with
    | zero => exact ⟨rfl, by simp⟩
    | succ i ih =>
        obtain ⟨hmap, hearlier⟩ := ih (by omega)
        have hget : (annotated uuid pods)[i]? = some (annotated uuid pods)[i] :=
          List.getElem?_eq_getElem hi
        have hslot := slots_getElem? i _ hget
        rcases hturns i hi [] hmap with ⟨slot, hindex, hsplit⟩
        rw [show slot = (annotated uuid pods)[i].slot from
          Option.some.inj ((index_eq_ok.mp hindex).symm.trans hslot)] at hsplit
        rcases hsplit hid with ⟨containerid, hcontainerid⟩
        have hlong := (List.getElem?_eq_some_iff.mp (index_eq_ok.mp hcontainerid)).1
        have hsame : (annotated uuid pods)[i].containerid = containerid := by
          unfold Pod.containerid
          rw [List.getD_eq_getElem?_getD, index_eq_ok.mp hcontainerid]
          rfl
        have hnot := hfresh _ (List.getElem_mem hi)
        rw [hsame] at hnot
        refine ⟨?_, ?_⟩
        · unfold mapPods at hmap ⊢
          rw [foldlM_range_succ, hmap, ok_bind]
          exact mapTurn_of_not_mem hslot hcontainerid hnot []
        · intro pod hpod
          rw [List.take_add_one, hget, List.mem_append] at hpod
          rcases hpod with hpod | hpod
          · exact hearlier pod hpod
          · rw [Option.toList_some, List.mem_singleton] at hpod
            rw [hpod]
            exact hlong
  have hall := (hreached _ le_rfl).2
  rwa [List.take_length] at hall

/-- A pod list gets through both passes after every attempt that accepts it
exactly if its annotated pods fit the table and all have a running first
container with an ID behind a scheme. -/
theorem tableSafe_iff (uuid : String) (pods : List Pod) :
    (∀ attempt mps data gpuPod, attemptOnce uuid attempt = .ok (mps, some pods) →
      TableSafe uuid pods mps data gpuPod) ↔
    (annotated uuid pods).length ≤ 48 ∧ ∀ pod ∈ annotated uuid pods, pod.WellFormed := by
  constructor
  · intro h
    by_cases hsome : annotated uuid pods = []
    · rw [hsome]
      exact ⟨by decide, fun pod hpod => by cases hpod⟩
    · have hzero : 0 < 100 := by decide
      rcases exists_accepted hsome hzero with ⟨attempt, mps, hattempt, -, -⟩
      rcases h attempt mps {} [] hattempt with ⟨filled, hfilled, -⟩
      obtain ⟨hfits, hread⟩ := (fillPods_returns_iff uuid pods).mp ⟨filled, hfilled⟩
      -- a container that none of the at most 48 pods has
      have hfew : ((annotated uuid pods).map Pod.containerid).length < 49 := by
        rw [List.length_map]
        omega
      rcases exists_freshName hfew with ⟨k, hk, hfresh⟩
      rcases exists_accepted hsome (hk.trans (by decide)) with
        ⟨attempt, mps, hattempt, hmem, hids⟩
      have hscheme := scheme_of_tableSafe hfits hread ⟨_, hmem, freshName_ne_empty k⟩
        (by
          intro pod hpod hcontained
          apply hfresh
          rw [← hids _ hcontained]
          exact List.mem_map.mpr ⟨pod, hpod, rfl⟩)
        (h attempt mps {} [] hattempt)
      refine ⟨hfits, ?_⟩
      intro pod hpod
      exact ⟨(hread pod hpod).containers, (hread pod hpod).running, hscheme pod hpod⟩
  · intro h attempt mps data gpuPod _
    exact tableSafe_of_wellFormed h.1 h.2 mps data gpuPod

/-- A pod whose first container has not started, beside one that runs. -/
def waitingPod : Pod where
  name := "a"
  annotations := [("UUID", "GPU-0")]
  containers := ["init", "main"]
  containerStatuses := [⟨"", none⟩, ⟨"containerd://abc", some 0⟩]

/-- The attempt is accepted, since one process runs in the pod. -/
theorem not_tableSafe :
    ¬∀ uuid pods attempt mps data gpuPod, attemptOnce uuid attempt = .ok (mps, some pods) →
      TableSafe uuid pods mps data gpuPod := by
  intro h
  have haccepted : attemptOnce "GPU-0" ⟨sharedHost, [⟨1, 10⟩], [some [waitingPod]]⟩ =
      .ok (⟨[⟨1, 10⟩], ["python"], ["abc"]⟩, some [waitingPod]) := by
    decide
  rcases h _ _ _ _ {} [] haccepted with ⟨filled, hfilled, -⟩
  have hfault : fillPods "GPU-0" [waitingPod] = .error ⟨.nilDereference, .gpumpsmetric⟩ := by
    decide
  rw [hfault] at hfilled
  cases hfilled

end MetricCollector.Gpumpsmetric
