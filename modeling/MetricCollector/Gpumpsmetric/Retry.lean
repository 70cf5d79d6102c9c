import MetricCollector.Gpumpsmetric.Coverage

/-!
# The retry loop

`Gpumpsmetric` makes up to twenty attempts.  Each takes a snapshot of the
processes and lists the pods, and it is accepted when the two counts agree;
with no agreement the call goes on as if there were no pod.

* `attemptOnce_eq` is what one attempt decides, from the counts.
* `gpumpsmetric_of_steady` is the whole call when nothing changes during it.
* `noPodLost_iff` says for which pods and processes no pod is lost.
-/

namespace MetricCollector.Gpumpsmetric

open GoLib Parallel Grpcs Influx Storage

/-- What the collector sees at one attempt. -/
structure Attempt where
  host : Host
  /-- `GetMPSComputeRunningProcesses`, empty on an error. -/
  processes : List ProcessInfo
  /-- The API server's replies to the tries of `getpodlist`. -/
  replies : List (Option (List Pod))

/-- `getpodlist`: the first of four tries that is answered. -/
def Attempt.getpodlist (attempt : Attempt) : Option (List Pod) :=
  (attempt.replies.take 4).findSome? id

/-- The counting pass over the pod list. -/
def countPods (uuid : String) (pods : List Pod) : Nat :=
  pods.foldl (fun podnum pod => podnum + (pod.matching uuid).length) 0

/-- One turn of the retry loop: the snapshot, and the `runpodlist` with which
the loop ends, if it ends. -/
def attemptOnce (uuid : String) (attempt : Attempt) : Exec (Processinfo × Option (List Pod)) := do
  let (mps, mpscount) ← getgpuprocess attempt.host attempt.processes
  match attempt.getpodlist with
  | none => .error ⟨.logFatal, .gpumpsmetric⟩
  | some podlist =>
      let podnum := countPods uuid podlist
      if podnum = mpscount ∧ podnum ≠ 0 then return (mps, some podlist)
      else if podnum = 0 ∧ mpscount = 0 then return (mps, some [])
      else return (mps, none)

/-- The retry loop, over the attempts that are left. -/
def retryLoop (uuid : String) : List Attempt → Processinfo → Exec (List Pod × Processinfo)
  | [], mps => return ([], mps)
  | attempt :: attempts, _ => do
      match ← attemptOnce uuid attempt with
      | (mps, some runpodlist) => return (runpodlist, mps)
      | (mps, none) => retryLoop uuid attempts mps

/-- `Gpumpsmetric`. -/
def gpumpsmetric (uuid : String) (env : Nat → Attempt) (data : Collection) (podmap : List PodGPU)
    (gpu : GrpcGPU) : Exec Collected := do
  let (runpodlist, mps) ← retryLoop uuid ((List.range 20).map env) {}
  collectPods uuid data runpodlist mps podmap gpu

/-! ## Counting pods -/

/-- The entries of a pod's annotation. -/
def Pod.entries (pod : Pod) : List String := split ',' pod.annotation

/-- The pods that are annotated with the GPU. -/
def podsOn (uuid : String) (items : List Pod) : List Pod :=
  items.filter fun pod => uuid ∈ pod.entries

/-- The two branches of the counting passes are one filter. -/
theorem matching_eq_filter (pod : Pod) (uuid : String) :
    pod.matching uuid = pod.entries.filter (· = uuid) := by
  unfold Pod.matching Pod.entries
  by_cases hmany : 1 < (split ',' pod.annotation).length
  · rw [if_pos hmany]
  · have hone : (split ',' pod.annotation).length = 1 := by
      have := List.length_pos_iff.mpr (split_ne_nil ',' pod.annotation)
      omega
    obtain ⟨entry, hentry⟩ := List.length_eq_one_iff.mp hone
    obtain rfl := split_eq_singleton hentry
    rw [if_neg hmany, hentry]
    by_cases hsame : pod.annotation = uuid
    · simp [hsame]
    · simp [hsame]

theorem length_matching (pod : Pod) (uuid : String) :
    (pod.matching uuid).length = pod.entries.count uuid := by
  rw [matching_eq_filter, ← List.countP_eq_length_filter, List.count]
  rfl

theorem countPods_eq (uuid : String) (pods : List Pod) :
    countPods uuid pods = (annotated uuid pods).length := by
  have hfrom : ∀ n, pods.foldl (fun podnum pod => podnum + (pod.matching uuid).length) n =
      n + (annotated uuid pods).length := by
    unfold annotated
    induction pods with
    | nil => intro n; rfl
    | cons pod pods ih =>
        intro n
        rw [List.foldl_cons, ih, List.flatMap_cons, List.length_append, List.length_map]
        omega
  rw [countPods, hfrom, Nat.zero_add]

theorem mem_annotated {uuid : String} {items : List Pod} {pod : Pod} :
    pod ∈ annotated uuid items ↔ pod ∈ podsOn uuid items := by
  unfold annotated podsOn
  simp only [List.mem_flatMap, List.mem_map, matching_eq_filter, List.mem_filter,
    decide_eq_true_eq]
  constructor
  · intro h
    rcases h with ⟨pod', hmem, entry, ⟨hentry, rfl⟩, rfl⟩
    exact ⟨hmem, hentry⟩
  · intro h
    exact ⟨pod, h.1, uuid, ⟨h.2, rfl⟩, rfl⟩

/-- Each pod lists the GPU once. -/
def ListedOnce (uuid : String) (items : List Pod) : Prop :=
  ∀ pod ∈ podsOn uuid items, pod.entries.count uuid = 1

/-- The passes stop at each pod at least once, and once only if it lists the GPU
once. -/
theorem length_annotated (uuid : String) (items : List Pod) :
    (podsOn uuid items).length ≤ (annotated uuid items).length ∧
      ((annotated uuid items).length = (podsOn uuid items).length → ListedOnce uuid items) := by
  induction items with
  | nil => exact ⟨le_rfl, fun _ pod hpod => by cases hpod⟩
  | cons pod items ih =>
      obtain ⟨hle, honce⟩ := ih
      have hannotated : (annotated uuid (pod :: items)).length =
          pod.entries.count uuid + (annotated uuid items).length := by
        rw [annotated, List.flatMap_cons, List.length_append, List.length_map, length_matching]
        rfl
      by_cases hmem : uuid ∈ pod.entries
      · have hpods : podsOn uuid (pod :: items) = pod :: podsOn uuid items :=
          List.filter_cons_of_pos (by simpa using hmem)
        have hcount : 0 < pod.entries.count uuid := List.count_pos_iff.mpr hmem
        rw [hannotated, hpods, List.length_cons]
        refine ⟨by omega, ?_⟩
        intro hequal pod' hpod'
        rw [hpods] at hpod'
        rcases List.mem_cons.mp hpod' with rfl | hpod'
        · omega
        · exact honce (by omega) pod' hpod'
      · have hpods : podsOn uuid (pod :: items) = podsOn uuid items :=
          List.filter_cons_of_neg (by simpa using hmem)
        rw [hannotated, hpods, List.count_eq_zero_of_not_mem hmem, Nat.zero_add]
        refine ⟨hle, ?_⟩
        intro hequal pod' hpod'
        rw [hpods] at hpod'
        exact honce hequal pod' hpod'

/-- Pods that list the GPU once are what the passes stop at. -/
theorem annotated_of_listedOnce {uuid : String} {items : List Pod}
    (honce : ListedOnce uuid items) : annotated uuid items = podsOn uuid items := by
  induction items with
  | nil => rfl
  | cons pod items ih =>
      have hrest : annotated uuid (pod :: items) =
          (pod.matching uuid).map (fun _ => pod) ++ annotated uuid items := rfl
      by_cases hmem : uuid ∈ pod.entries
      · have hpods : podsOn uuid (pod :: items) = pod :: podsOn uuid items :=
          List.filter_cons_of_pos (by simpa using hmem)
        have hone : (pod.matching uuid).length = 1 := by
          rw [length_matching]
          exact honce pod (by rw [hpods]; exact List.mem_cons_self)
        obtain ⟨entry, hentry⟩ := List.length_eq_one_iff.mp hone
        have hones : ListedOnce uuid items :=
          fun p hp => honce p (by rw [hpods]; exact List.mem_cons_of_mem _ hp)
        rw [hrest, hpods, hentry, ih hones]
        rfl
      · have hpods : podsOn uuid (pod :: items) = podsOn uuid items :=
          List.filter_cons_of_neg (by simpa using hmem)
        have hnone : pod.matching uuid = [] := by
          rw [← List.length_eq_zero_iff, length_matching, List.count_eq_zero_of_not_mem hmem]
        have hones : ListedOnce uuid items := fun p hp => honce p (by rw [hpods]; exact hp)
        rw [hrest, hpods, hnone, ih hones]
        rfl

/-! ## The loop under steady answers -/

/-- The counts with which an attempt is accepted. -/
def Agree (uuid : String) (items : List Pod) (mpscount : Nat) : Prop :=
  (annotated uuid items).length = mpscount ∧ (annotated uuid items).length ≠ 0

instance (uuid : String) (items : List Pod) (mpscount : Nat) :
    Decidable (Agree uuid items mpscount) :=
  inferInstanceAs (Decidable (_ ∧ _))

/-- An attempt that lists these pods decides by the two counts. -/
theorem attemptOnce_eq {uuid : String} {attempt : Attempt} {items : List Pod} {mps : Processinfo}
    {mpscount : Nat} (hpods : attempt.getpodlist = some items)
    (hsnapshot : getgpuprocess attempt.host attempt.processes = .ok (mps, mpscount)) :
    attemptOnce uuid attempt = .ok (mps,
      if Agree uuid items mpscount then some items
      else if (annotated uuid items).length = 0 ∧ mpscount = 0 then some []
      else none) := by
  unfold attemptOnce
  rw [hsnapshot, ok_bind]
  dsimp only
  rw [hpods]
  dsimp only
  rw [countPods_eq]
  show (if Agree uuid items mpscount then _ else _) = _
  split_ifs
  · rfl
  · rfl
  · rfl

/-- The loop over attempts that all fail ends with no pod. -/
theorem retryLoop_of_rejected {uuid : String} {attempts : List Attempt} {mps : Processinfo}
    (h : ∀ attempt ∈ attempts, attemptOnce uuid attempt = .ok (mps, none)) :
    retryLoop uuid attempts mps = .ok ([], mps) := by
  induction attempts with
  | nil => rfl
  | cons attempt attempts ih =>
      unfold retryLoop
      rw [h attempt (by simp), ok_bind]
      exact ih fun a ha => h a (by simp [ha])

/-- The host, the processes and the pods are the same at every attempt. -/
structure Steady (env : Nat → Attempt) (host : Host) (processes : List ProcessInfo)
    (items : List Pod) : Prop where
  host : ∀ n < 20, (env n).host = host
  processes : ∀ n < 20, (env n).processes = processes
  pods : ∀ n < 20, (env n).getpodlist = some items

/-- With steady answers the call goes on with the listed pods if the counts
agree, and with none otherwise. -/
theorem gpumpsmetric_of_steady {uuid : String} {env : Nat → Attempt} {host : Host}
    {processes : List ProcessInfo} {items : List Pod} (hsteady : Steady env host processes items)
    {mps : Processinfo} {mpscount : Nat}
    (hsnapshot : getgpuprocess host processes = .ok (mps, mpscount)) (data : Collection)
    (podmap : List PodGPU) (gpu : GrpcGPU) :
    gpumpsmetric uuid env data podmap gpu =
      collectPods uuid data (if Agree uuid items mpscount then items else []) mps podmap gpu := by
  have hattempt : ∀ n < 20, attemptOnce uuid (env n) = .ok (mps,
      if Agree uuid items mpscount then some items
      else if (annotated uuid items).length = 0 ∧ mpscount = 0 then some []
      else none) := by
    intro n hn
    apply attemptOnce_eq (hsteady.pods n hn)
    rw [hsteady.host n hn, hsteady.processes n hn]
    exact hsnapshot
  have hattempts : (List.range 20).map env = env 0 :: (List.range' 1 19).map env := rfl
  have hloop : retryLoop uuid ((List.range 20).map env) {} =
      .ok (if Agree uuid items mpscount then items else [], mps) := by
    rw [hattempts]
    unfold retryLoop
    rw [hattempt 0 (by omega), ok_bind]
    by_cases hagree : Agree uuid items mpscount
    · rw [if_pos hagree, if_pos hagree]
      rfl
    · rw [if_neg hagree, if_neg hagree]
      by_cases hidle : (annotated uuid items).length = 0 ∧ mpscount = 0
      · rw [if_pos hidle]
        rfl
      · rw [if_neg hidle]
        apply retryLoop_of_rejected
        intro attempt hmem
        obtain ⟨n, hn, rfl⟩ := List.mem_map.mp hmem
        rw [List.mem_range'_1] at hn
        rw [hattempt n (by omega), if_neg hagree, if_neg hidle]
  unfold gpumpsmetric
  rw [hloop]
  rfl

/-! ## No pod is lost -/

/-- The process runs in the container of the pod. -/
def RunsIn (host : Host) (process : ProcessInfo) (pod : Pod) : Prop :=
  pod.containerid ≠ "" ∧ host.container process.pid = pod.containerid

/-- Every process runs in one of the pods, and every pod runs one. -/
structure Populated (host : Host) (processes : List ProcessInfo) (pods : List Pod) : Prop where
  belongs : ∀ process ∈ processes, ∃ pod ∈ pods, RunsIn host process pod
  runs : ∀ pod ∈ pods, ∃ process ∈ processes, RunsIn host process pod

/-- The call returns the number of pods and leaves an entry for each. -/
def NoPodLost (pods : List Pod) (run : Exec Collected) : Prop :=
  ∃ out, run = .ok out ∧ out.podnum = pods.length ∧
    ∀ pod ∈ pods, ∃ entry ∈ out.gpu.gpuPod, entry.podName = pod.name ∧ entry.podUid = pod.uid

/-- The files give the ID of each pod, at a place within the processes. -/
def AllPlaced (cs : List (Contribution String)) (processes : List ProcessInfo) (pods : List Pod) :
    Prop :=
  ∀ pod ∈ pods, ∃ (k : Nat) (c : Contribution String), cs[k]? = some c ∧
    c.entry = some pod.containerid ∧ place cs k < processes.length

/-- Each pod lists the GPU once, and the files are read without a fault and give as
many IDs as there are pods, each pod's within reach. -/
structure OneEach (host : Host) (uuid : String) (items : List Pod) (processes : List ProcessInfo) :
    Prop where
  once : ListedOnce uuid items
  read : ∃ cs, processes.mapM host.contribution = .ok cs ∧
    countEntries cs = (podsOn uuid items).length ∧ AllPlaced cs processes (podsOn uuid items)

/-- The pods that a snapshot maps. -/
theorem exists_mappedTo_iff_placed {host : Host} {processes : List ProcessInfo}
    {cs : List (Contribution String)} {pod : Pod} (hid : pod.containerid ≠ "") :
    (∃ k, MappedTo (snapshotOf host processes cs) pod k) ↔
      ∃ (k : Nat) (c : Contribution String), cs[k]? = some c ∧
        c.entry = some pod.containerid ∧ place cs k < processes.length := by
  rw [exists_mappedTo_iff]
  show (_ ∧ ∃ i, (recorded "" cs)[i]? = _ ∧ i < processes.length) ↔ _
  constructor
  · intro h
    rcases h with ⟨-, i, hi, hlt⟩
    obtain ⟨k, c, hc, hentry, rfl⟩ := (recorded_getElem?_iff hid).mp hi
    exact ⟨k, c, hc, hentry, hlt⟩
  · intro h
    rcases h with ⟨k, c, hc, hentry, hlt⟩
    exact ⟨hid, _, (recorded_getElem?_iff hid).mpr ⟨k, c, hc, hentry, rfl⟩, hlt⟩

section Unchanged

variable {uuid : String} {env : Nat → Attempt} {host : Host} {processes : List ProcessInfo}
variable {items : List Pod} (hsteady : Steady env host processes items)
variable (hwell : ∀ pod ∈ podsOn uuid items, pod.WellFormed)
variable (hpopulated : Populated host processes (podsOn uuid items))
variable {data : Collection} (podmap : List PodGPU) {gpu : GrpcGPU} (hempty : gpu.gpuPod = [])

include hsteady in
/-- A call that returned has read every file. -/
theorem exists_contributions {out : Collected}
    (h : gpumpsmetric uuid env data podmap gpu = .ok out) :
    ∃ cs, processes.mapM host.contribution = .ok cs := by
  rcases bind_eq_ok.mp h with ⟨accepted, hloop, -⟩
  have hattempts : (List.range 20).map env = env 0 :: (List.range' 1 19).map env := rfl
  rw [hattempts, retryLoop] at hloop
  rcases bind_eq_ok.mp hloop with ⟨first, hfirst, -⟩
  rcases bind_eq_ok.mp hfirst with ⟨snapshot, hsnapshot, -⟩
  rw [hsteady.host 0 (by omega), hsteady.processes 0 (by omega), getgpuprocess_eq] at hsnapshot
  rcases bind_eq_ok.mp hsnapshot with ⟨cs, hcs, -⟩
  exact ⟨cs, hcs⟩

include hpopulated in
/-- Without a pod there is no process. -/
theorem oneEach_of_no_pod (hnone : podsOn uuid items = []) : OneEach host uuid items processes := by
  have hidle : processes = [] := by
    apply List.eq_nil_iff_forall_not_mem.mpr
    intro process hprocess
    obtain ⟨pod, hpod, -⟩ := hpopulated.belongs process hprocess
    rw [hnone] at hpod
    cases hpod
  refine ⟨?_, [], by rw [hidle]; rfl, by rw [hnone]; rfl, ?_⟩
  · intro pod hpod
    rw [hnone] at hpod
    cases hpod
  · intro pod hpod
    rw [hnone] at hpod
    cases hpod

include hsteady hwell hpopulated hempty in
/-- If no pod is lost, the counts agreed and every pod was mapped. -/
theorem oneEach_of_noPodLost (hfits : (podsOn uuid items).length ≤ 48)
    (h : NoPodLost (podsOn uuid items) (gpumpsmetric uuid env data podmap gpu)) :
    OneEach host uuid items processes := by
  rcases h with ⟨out, hrun, hpodnum, -⟩
  obtain ⟨cs, hcs⟩ := exists_contributions hsteady podmap hrun
  have hsnapshot : getgpuprocess host processes =
      .ok (snapshotOf host processes cs, countEntries cs) := by
    rw [getgpuprocess_eq, hcs, ok_bind]
  rw [gpumpsmetric_of_steady hsteady hsnapshot] at hrun
  rw [podnum_of_collectPods podmap hrun] at hpodnum
  by_cases hagree : Agree uuid items (countEntries cs)
  · rw [if_pos hagree] at hrun hpodnum
    refine ⟨(length_annotated uuid items).2 hpodnum, cs, hcs, hagree.1.symm.trans hpodnum, ?_⟩
    intro pod hpod
    obtain ⟨process, -, hruns⟩ := hpopulated.runs pod hpod
    apply (exists_mappedTo_iff_placed hruns.1).mp
    exact mapped_of_collectPods podmap (fun pod hpod => hwell pod (mem_annotated.mp hpod))
      (by omega) hempty hrun pod (mem_annotated.mpr hpod)
  · -- no pod was taken over, so there is none
    rw [if_neg hagree] at hpodnum
    exact oneEach_of_no_pod hpopulated (List.length_eq_zero_iff.mp hpodnum.symm)

include hsteady hwell hpopulated hempty in
/-- When the files give one ID for each pod the first attempt is accepted, and its
collection has an entry for each. -/
theorem noPodLost_of_oneEach (hfits : (podsOn uuid items).length ≤ 48)
    (hdata : data.metricsbatchs ≠ []) (h : OneEach host uuid items processes) :
    NoPodLost (podsOn uuid items) (gpumpsmetric uuid env data podmap gpu) := by
  obtain ⟨honce, cs, hcs, hcount, hplaced⟩ := h
  have hsnapshot : getgpuprocess host processes =
      .ok (snapshotOf host processes cs, countEntries cs) := by
    rw [getgpuprocess_eq, hcs, ok_bind]
  have hname : (snapshotOf host processes cs).name.length =
      (snapshotOf host processes cs).nvmlprocess.length := List.length_map _
  have hmapped : ∀ pod ∈ podsOn uuid items,
      ∃ k, MappedTo (snapshotOf host processes cs) pod k := by
    intro pod hpod
    obtain ⟨process, -, hruns⟩ := hpopulated.runs pod hpod
    exact (exists_mappedTo_iff_placed hruns.1).mpr (hplaced pod hpod)
  have hlisted := annotated_of_listedOnce honce
  have htaken : annotated uuid (if Agree uuid items (countEntries cs) then items else []) =
      podsOn uuid items := by
    by_cases hnone : (annotated uuid items).length = 0
    · rw [if_neg (fun hagree => hagree.2 hnone), ← hlisted, List.length_eq_zero_iff.mp hnone]
      rfl
    · rw [if_pos ⟨by rw [hlisted, hcount], hnone⟩, hlisted]
  rw [← htaken] at hwell hfits hmapped
  obtain ⟨out, hrun, hpodnum, hentries⟩ :=
    collectPods_of_mapped podmap hname hdata hwell hfits hempty hmapped
  rw [htaken] at hpodnum hentries
  rw [gpumpsmetric_of_steady hsteady hsnapshot]
  refine ⟨out, hrun, hpodnum, ?_⟩
  intro pod hpod
  obtain ⟨i, hi, rfl⟩ := List.getElem_of_mem hpod
  obtain ⟨k, -, hentry⟩ := hentries.get hi (hentries.length_eq ▸ hi)
  exact ⟨_, List.get_mem _ _, hentry.podName, hentry.podUid⟩

end Unchanged

/-- While nothing changes, no pod is lost exactly when the files give one ID for each
pod, within reach. -/
theorem noPodLost_iff {uuid : String} {env : Nat → Attempt} {host : Host}
    {processes : List ProcessInfo} {items : List Pod} (hsteady : Steady env host processes items)
    (hwell : ∀ pod ∈ podsOn uuid items, pod.WellFormed) (hfits : (podsOn uuid items).length ≤ 48)
    (hpopulated : Populated host processes (podsOn uuid items)) {data : Collection}
    (hdata : data.metricsbatchs ≠ []) (podmap : List PodGPU) {gpu : GrpcGPU}
    (hempty : gpu.gpuPod = []) :
    NoPodLost (podsOn uuid items) (gpumpsmetric uuid env data podmap gpu) ↔
      OneEach host uuid items processes :=
  ⟨oneEach_of_noPodLost hsteady hwell hpopulated podmap hempty hfits,
    noPodLost_of_oneEach hsteady hwell hpopulated podmap hempty hfits hdata⟩

/-- What the collector sees when process 1 runs in the only pod. -/
def onePodOneProcess : Attempt where
  host := sharedHost
  processes := [⟨1, 10⟩]
  replies := [some [runningPod "a" "abc"]]

/-- What the collector sees when process 1 runs in pod `b` and process 2 in pod `a`.  The
first try of `getpodlist` fails. -/
def crossedPods : Attempt where
  host := crossedHost
  processes := [⟨1, 10⟩, ⟨2, 20⟩]
  replies := [none, some [runningPod "a" "abc", runningPod "b" "def"]]

/-- Two pods with one process each are not lost. -/
theorem noPodLost_for_crossed_pods :
    NoPodLost (podsOn "GPU-0" [runningPod "a" "abc", runningPod "b" "def"])
      (gpumpsmetric "GPU-0" (fun _ => crossedPods) ⟨[{}]⟩ [] {}) := by
  have hsteady : Steady (fun _ => crossedPods) crossedHost [⟨1, 10⟩, ⟨2, 20⟩]
      [runningPod "a" "abc", runningPod "b" "def"] :=
    ⟨fun _ _ => rfl, fun _ _ => rfl, fun _ _ => rfl⟩
  have hpods : podsOn "GPU-0" [runningPod "a" "abc", runningPod "b" "def"] =
      [runningPod "a" "abc", runningPod "b" "def"] := by
    decide
  have hfirst : RunsIn crossedHost ⟨1, 10⟩ (runningPod "b" "def") := ⟨by decide, by decide⟩
  have hsecond : RunsIn crossedHost ⟨2, 20⟩ (runningPod "a" "abc") := ⟨by decide, by decide⟩
  have hread : [(⟨1, 10⟩ : ProcessInfo), ⟨2, 20⟩].mapM crossedHost.contribution =
      .ok [{ entry := some "def" }, { entry := some "abc" }] := by
    decide
  refine (noPodLost_iff hsteady ?_ ?_ ⟨?_, ?_⟩ (by simp) [] rfl).mpr
    ⟨?_, _, hread, by decide, ?_⟩
  · intro pod hpod
    rw [hpods] at hpod
    rcases List.mem_pair.mp hpod with rfl | rfl
    · exact runningPod_wellFormed (by decide)
    · exact runningPod_wellFormed (by decide)
  · decide
  · rw [hpods]
    intro process hprocess
    rcases List.mem_pair.mp hprocess with rfl | rfl
    · exact ⟨_, by simp, hfirst⟩
    · exact ⟨_, by simp, hsecond⟩
  · rw [hpods]
    intro pod hpod
    rcases List.mem_pair.mp hpod with rfl | rfl
    · exact ⟨_, by simp, hsecond⟩
    · exact ⟨_, by simp, hfirst⟩
  · unfold ListedOnce
    decide
  · rw [hpods]
    intro pod hpod
    rcases List.mem_pair.mp hpod with rfl | rfl
    · exact ⟨1, _, rfl, rfl, by decide⟩
    · exact ⟨0, _, rfl, rfl, by decide⟩

/-- What the collector sees when processes 1 and 2 run in the only pod. -/
def onePodTwoProcesses : Attempt where
  host := sharedHost
  processes := [⟨1, 10⟩, ⟨2, 20⟩]
  replies := [some [runningPod "a" "abc"]]

/-- A pod with two processes is lost: twenty attempts count one pod and two
processes, and the call returns no pod. -/
theorem noPodLost_fails_for_two_processes :
    Populated sharedHost [⟨1, 10⟩, ⟨2, 20⟩] (podsOn "GPU-0" [runningPod "a" "abc"]) ∧
      (∀ pod ∈ podsOn "GPU-0" [runningPod "a" "abc"], pod.WellFormed) ∧
      (podsOn "GPU-0" [runningPod "a" "abc"]).length = 1 ∧
      ¬NoPodLost (podsOn "GPU-0" [runningPod "a" "abc"])
        (gpumpsmetric "GPU-0" (fun _ => onePodTwoProcesses) ⟨[{}]⟩ [] {}) := by
  have hpods : podsOn "GPU-0" [runningPod "a" "abc"] = [runningPod "a" "abc"] := by decide
  rw [hpods]
  refine ⟨⟨?_, ?_⟩, ?_, rfl, ?_⟩
  · intro process _
    exact ⟨_, List.mem_singleton_self _, by decide, rfl⟩
  · intro pod hpod
    rw [List.mem_singleton] at hpod
    subst hpod
    exact ⟨_, List.mem_cons_self, by decide, rfl⟩
  · intro pod hpod
    rw [List.mem_singleton] at hpod
    subst hpod
    exact runningPod_wellFormed (by decide)
  · intro h
    rcases h with ⟨out, hrun, hpodnum, -⟩
    have hsteady : Steady (fun _ => onePodTwoProcesses) sharedHost [⟨1, 10⟩, ⟨2, 20⟩]
        [runningPod "a" "abc"] := ⟨fun _ _ => rfl, fun _ _ => rfl, fun _ _ => rfl⟩
    have hsnapshot : getgpuprocess sharedHost [⟨1, 10⟩, ⟨2, 20⟩] =
        .ok (⟨[⟨1, 10⟩, ⟨2, 20⟩], ["python", "python"], ["abc", "abc"]⟩, 2) := by
      decide
    rw [gpumpsmetric_of_steady hsteady hsnapshot] at hrun
    have hcounted := podnum_of_collectPods _ hrun
    have hnone : (annotated "GPU-0" (if Agree "GPU-0" [runningPod "a" "abc"] 2
        then [runningPod "a" "abc"] else [])).length = 0 := by
      decide
    rw [hnone, hpodnum] at hcounted
    cases hcounted

end MetricCollector.Gpumpsmetric
