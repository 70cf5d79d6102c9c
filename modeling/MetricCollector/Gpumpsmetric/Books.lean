import MetricCollector.GoLib.Enroll
import MetricCollector.GoLib.Schedule
import MetricCollector.Gpumpsmetric.Retry

/-!
# The books over many cycles

`Gpumpsmetric` is called for a GPU once in every collection cycle.  The pod map
and the counters `GPUAssingment` and `GPUReturn` go from one cycle to the next;
whatever else is in the GPU record is new each time.

* `kept_trackPods` is what one cycle does to the books: the container IDs in the
  pod map are a list that they are enrolled in, and the first counter its length.
* `cycle` is one cycle as a step, whose label says which containers it found.
* `run_eq_some` carries that through a run, and `books_kept` is what the books
  say after any number of cycles.
-/

namespace MetricCollector.Gpumpsmetric

open GoLib GoLib.Schedule Grpcs Storage

/-! ## One cycle -/

/-- The container IDs on record. -/
def idsOf (podmap : List PodGPU) : List String := podmap.map PodGPU.containerID

theorem length_idsOf (podmap : List PodGPU) : (idsOf podmap).length = podmap.length :=
  List.length_map _

/-- Marking a container as running is not seen in a list of another field. -/
theorem map_mark {β : Type} (field : PodGPU → β)
    (h : ∀ pod, field { pod with runningCheck := true } = field pod) (podmap : List PodGPU)
    (j : Nat) :
    (podmap.modify j fun pod => { pod with runningCheck := true }).map field =
      podmap.map field := by
  induction podmap generalizing j with
  | nil => simp
  | cons pod podmap ih =>
      cases j with
      | zero => simp [h]
      | succ j => simp [ih]

/-- Nothing on record has passed a health check. -/
def Unchecked (podmap : List PodGPU) : Prop := ∀ check ∈ podmap.map PodGPU.healthCheck, check = false

/-- The books and the list that its container IDs are to be. -/
structure Kept (ids : List String) (acc : List PodGPU × Int64) : Prop where
  ids_eq : idsOf acc.1 = ids
  assigned : acc.2 = Int64.ofNat acc.1.length
  unchecked : Unchecked acc.1

/-- An entry of `GPUPod` marks the first record of its container, or adds one. -/
theorem trackPod_cases (acc : List PodGPU × Int64) (entry : PodMetric) :
    (∃ j pod, acc.1[j]? = some pod ∧ pod.containerID = entry.containerID ∧
      trackPod acc entry =
        (acc.1.modify j fun pod => { pod with runningCheck := true }, acc.2)) ∨
    (entry.containerID ∉ idsOf acc.1 ∧
      trackPod acc entry = (acc.1 ++ [{ containerID := entry.containerID }], acc.2 + 1)) := by
  unfold trackPod
  split
  next j hj =>
    obtain ⟨hlt, hsame, -⟩ := List.findIdx?_eq_some_iff_getElem.mp hj
    exact Or.inl ⟨j, acc.1[j], List.getElem?_eq_getElem hlt, (of_decide_eq_true hsame).symm, rfl⟩
  next hnone =>
    refine Or.inr ⟨?_, rfl⟩
    intro hmem
    rcases List.mem_map.mp hmem with ⟨pod, hpod, hsame⟩
    have hdiffers := List.findIdx?_eq_none_iff.mp hnone pod hpod
    exact of_decide_eq_false hdiffers hsame.symm

/-- Its container is enrolled. -/
theorem idsOf_trackPod (acc : List PodGPU × Int64) (entry : PodMetric) :
    idsOf (trackPod acc entry).1 = enrollOne (idsOf acc.1) entry.containerID := by
  rcases trackPod_cases acc entry with ⟨j, pod, hj, hsame, htrack⟩ | ⟨hnew, htrack⟩
  · have hmem : entry.containerID ∈ idsOf acc.1 :=
      List.mem_map.mpr ⟨pod, List.mem_of_getElem? hj, hsame⟩
    rw [htrack, enrollOne_of_mem hmem]
    exact map_mark PodGPU.containerID (fun _ => rfl) acc.1 j
  · rw [htrack, enrollOne_of_not_mem hnew]
    exact List.map_append

/-- One entry of `GPUPod` enrolls its container, and is counted if it is new. -/
theorem kept_trackPod {ids : List String} {acc : List PodGPU × Int64} (h : Kept ids acc)
    (entry : PodMetric) : Kept (enrollOne ids entry.containerID) (trackPod acc entry) := by
  have hids := idsOf_trackPod acc entry
  rw [h.ids_eq] at hids
  rcases trackPod_cases acc entry with ⟨j, pod, -, -, htrack⟩ | ⟨-, htrack⟩
  · refine ⟨hids, ?_, ?_⟩
    · rw [htrack, List.length_modify]
      exact h.assigned
    · have hsame := map_mark PodGPU.healthCheck (fun _ => rfl) acc.1 j
      intro check hcheck
      rw [htrack, hsame] at hcheck
      exact h.unchecked check hcheck
  · refine ⟨hids, ?_, ?_⟩
    · rw [htrack, List.length_append, List.length_singleton, Int64.ofNat_add, ← h.assigned]
      rfl
    · intro check hcheck
      rw [htrack, List.map_append, List.mem_append] at hcheck
      rcases hcheck with hold | hfresh
      · exact h.unchecked check hold
      · exact List.mem_singleton.mp hfresh

/-- The middle loop enrolls the containers of all entries. -/
theorem kept_foldl {ids : List String} {acc : List PodGPU × Int64} (h : Kept ids acc)
    (entries : List PodMetric) :
    Kept (enroll ids (entries.map PodMetric.containerID)) (entries.foldl trackPod acc) := by
  induction entries generalizing ids acc with
  | nil => exact h
  | cons entry entries ih => exact ih (kept_trackPod h entry)

/-- What a cycle does to the books: the containers in `GPUPod` are enrolled, the
first counter follows the list, and the second one stays. -/
theorem kept_trackPods {podmap : List PodGPU} {gpu : GrpcGPU}
    (h : Kept (idsOf podmap) (podmap, gpu.gpuAssingment)) :
    Kept (enroll (idsOf podmap) (gpu.gpuPod.map PodMetric.containerID))
        ((trackPods podmap gpu).1, (trackPods podmap gpu).2.gpuAssingment) ∧
      (trackPods podmap gpu).2.gpuReturn = gpu.gpuReturn := by
  have hstart : Kept (idsOf podmap)
      (podmap.map fun pod => { pod with runningCheck := false }, gpu.gpuAssingment) := by
    refine ⟨?_, ?_, ?_⟩
    · rw [idsOf, List.map_map]
      rfl
    · rw [List.length_map]
      exact h.assigned
    · intro check hcheck
      rw [List.map_map] at hcheck
      exact h.unchecked check hcheck
  have hloop := kept_foldl hstart gpu.gpuPod
  refine ⟨hloop, ?_⟩
  have hended : (gpu.gpuPod.foldl trackPod
      (podmap.map fun pod => { pod with runningCheck := false }, gpu.gpuAssingment)).1.countP
        (fun pod => !pod.runningCheck && pod.healthCheck) = 0 := by
    rw [List.countP_eq_zero]
    intro pod hpod
    rw [hloop.unchecked pod.healthCheck (List.mem_map_of_mem hpod)]
    simp
  show gpu.gpuReturn + Int64.ofNat _ = gpu.gpuReturn
  rw [hended]
  exact Int64.add_zero _

/-! ## Cycles one after another -/

/-- What goes from one cycle to the next. -/
structure Books where
  podmap : List PodGPU := []
  assigned : Int64 := 0
  returned : Int64 := 0
deriving DecidableEq, Repr

/-- One call of `Gpumpsmetric`: what it is given, and the containers that it has
in `GPUPod` in the end. -/
structure Cycle where
  env : Nat → Attempt
  data : Collection
  /-- The GPU record, whose two counters are those of the books. -/
  gpu : GrpcGPU
  containers : List String

/-- A cycle that returns with these containers. -/
def cycle (uuid : String) (s : Books) (c : Cycle) : Option Books :=
  match gpumpsmetric uuid c.env c.data s.podmap
      { c.gpu with gpuAssingment := s.assigned, gpuReturn := s.returned } with
  | .error _ => none
  | .ok out =>
      if out.gpu.gpuPod.map PodMetric.containerID = c.containers then
        some ⟨out.podmap, out.gpu.gpuAssingment, out.gpu.gpuReturn⟩
      else none

/-- A call that returned has kept the books for what is in `GPUPod`. -/
theorem trackPods_of_gpumpsmetric {uuid : String} {env : Nat → Attempt} {data : Collection}
    {podmap : List PodGPU} {gpu : GrpcGPU} {out : Collected}
    (h : gpumpsmetric uuid env data podmap gpu = .ok out) :
    (out.podmap, out.gpu) = trackPods podmap { gpu with gpuPod := out.gpu.gpuPod } := by
  rw [gpumpsmetric, bind_eq_ok] at h
  rcases h with ⟨⟨runpodlist, mps⟩, -, h⟩
  change collectPods uuid data runpodlist mps podmap gpu = .ok out at h
  rw [collectPods, bind_eq_ok] at h
  rcases h with ⟨⟨gpumpsmap, podnum⟩, -, h⟩
  rcases bind_eq_ok.mp h with ⟨gpuPod, -, h⟩
  rcases bind_eq_ok.mp h with ⟨points, -, h⟩
  cases h
  rfl

/-- Each container is on record once, the counter is their number, and nothing has
passed a health check. -/
structure InOrder (s : Books) : Prop where
  nodup : (idsOf s.podmap).Nodup
  kept : Kept (idsOf s.podmap) (s.podmap, s.assigned)

theorem InOrder.assigned_eq {s : Books} (h : InOrder s) :
    s.assigned = Int64.ofNat s.podmap.length :=
  h.kept.assigned

/-- What one cycle does. -/
theorem cycle_eq_some {uuid : String} {s t : Books} {c : Cycle} (hs : InOrder s)
    (h : cycle uuid s c = some t) :
    InOrder t ∧ idsOf t.podmap = enroll (idsOf s.podmap) c.containers ∧
      t.returned = s.returned := by
  unfold cycle at h
  split at h
  case h_1 => cases h
  case h_2 out hout =>
    split at h
    case isFalse => cases h
    case isTrue hcontainers =>
      have hbooks := trackPods_of_gpumpsmetric hout
      cases h
      obtain ⟨hkept, hreturn⟩ := @kept_trackPods s.podmap { c.gpu with
        gpuAssingment := s.assigned
        gpuReturn := s.returned
        gpuPod := out.gpu.gpuPod } hs.kept
      have hids := hkept.ids_eq
      rw [← hbooks] at hkept hreturn hids
      rw [hcontainers] at hids
      have hnodup := nodup_enroll hs.nodup c.containers
      rw [← hids] at hnodup
      exact ⟨⟨hnodup, ⟨rfl, hkept.assigned, hkept.unchecked⟩⟩, hids, hreturn⟩

/-- What a run of cycles does. -/
theorem run_eq_some {uuid : String} {s t : Books} {cs : List Cycle} (hs : InOrder s)
    (h : run (cycle uuid) s cs = some t) :
    InOrder t ∧ idsOf t.podmap = enroll (idsOf s.podmap) (cs.flatMap Cycle.containers) ∧
      t.returned = s.returned := by
  induction cs generalizing s with
  | nil =>
      rw [run_nil] at h
      cases h
      exact ⟨hs, rfl, rfl⟩
  | cons c cs ih =>
      rw [run_cons, Option.bind_eq_some_iff] at h
      rcases h with ⟨u, hu, hrest⟩
      obtain ⟨hinOrder, hids, hreturned⟩ := cycle_eq_some hs hu
      obtain ⟨hinOrder', hids', hreturned'⟩ := ih hinOrder hrest
      rw [hids, ← enroll_append] at hids'
      exact ⟨hinOrder', hids', hreturned'.trans hreturned⟩

/-- Books with nothing on record are in order. -/
theorem inOrder_start (returned : Int64) : InOrder { returned } := by
  refine ⟨List.nodup_nil, rfl, rfl, ?_⟩
  intro check hcheck
  cases hcheck

/-- After any number of cycles the pod map has each container that was seen
once, in the order in which they came, and the counter is its length. -/
theorem books_kept (uuid : String) (returned : Int64) (earlier later : List Cycle) (s t : Books)
    (hs : run (cycle uuid) { returned } earlier = some s)
    (ht : run (cycle uuid) s later = some t) :
    (idsOf t.podmap).Nodup ∧ idsOf s.podmap <+: idsOf t.podmap ∧
      t.assigned = Int64.ofNat t.podmap.length ∧
      t.podmap.length = ((earlier ++ later).flatMap Cycle.containers).toFinset.card := by
  obtain ⟨hsOrder, hsIds, -⟩ := run_eq_some (inOrder_start returned) hs
  obtain ⟨htOrder, htIds, -⟩ := run_eq_some hsOrder ht
  refine ⟨htOrder.nodup, ?_, htOrder.assigned_eq, ?_⟩
  · rw [htIds]
    exact prefix_enroll _ _
  · have hempty : idsOf ({ returned } : Books).podmap = [] := rfl
    rw [hsIds, hempty, ← enroll_append, ← List.flatMap_append] at htIds
    rw [← length_idsOf, htIds, length_enroll_nil]

/-- A cycle in which process 1 runs in the only pod. -/
def busyCycle : Cycle where
  env _ := onePodOneProcess
  data := ⟨[{}]⟩
  gpu := {}
  containers := ["abc"]

/-- A cycle with neither a process nor a pod. -/
def idleCycle : Cycle where
  env _ := { onePodOneProcess with processes := [], replies := [some []] }
  data := ⟨[{}]⟩
  gpu := {}
  containers := []

/-- The books after one busy cycle. -/
def busyBooks : Books := ⟨[{ containerID := "abc" }], 1, 0⟩

theorem cycle_busyCycle : cycle "GPU-0" {} busyCycle = some busyBooks := by
  decide

theorem cycle_idleCycle : cycle "GPU-0" busyBooks idleCycle = some busyBooks := by
  decide

/-- A container that has ended stays on record. -/
theorem books_kept_after_idleCycle :
    (idsOf busyBooks.podmap).Nodup ∧ idsOf busyBooks.podmap <+: idsOf busyBooks.podmap ∧
      busyBooks.assigned = Int64.ofNat busyBooks.podmap.length ∧
      busyBooks.podmap.length =
        (([busyCycle] ++ [idleCycle]).flatMap Cycle.containers).toFinset.card := by
  have hbusy : run (cycle "GPU-0") {} [busyCycle] = some busyBooks := by
    rw [run_cons, cycle_busyCycle]
    rfl
  have hidle : run (cycle "GPU-0") busyBooks [idleCycle] = some busyBooks := by
    rw [run_cons, cycle_idleCycle]
    rfl
  exact books_kept "GPU-0" 0 [busyCycle] [idleCycle] busyBooks busyBooks hbusy hidle

end MetricCollector.Gpumpsmetric
