import MetricCollector.Gpumpsmetric.Books

/-!
# The liveness flags

At the end of a call `Gpumpsmetric` clears `RunningCheck` of every record of the
pod map, sets it for the containers in `GPUPod`, and takes the records without
it for containers that have ended.  A record that the call has just added keeps
the flag it was made with.

* `flagged_trackPods` says which flags a call leaves.
* `liveness_iff` says in which runs they are the right ones.
-/

namespace MetricCollector.Gpumpsmetric

open GoLib GoLib.Schedule Grpcs Storage

/-- The flags after a cycle are those of its containers, so none of them is
taken for one that has ended, whatever its health check. -/
structure Exact (_ : Books) (c : Cycle) (t : Books) : Prop where
  flags : ∀ pod ∈ t.podmap, pod.runningCheck = true ↔ pod.containerID ∈ c.containers
  notEnded : ∀ pod ∈ t.podmap, pod.containerID ∈ c.containers →
    ∀ healthCheck, (!pod.runningCheck && healthCheck) = false

/-- Every container of the cycle is on record before it, or twice in `GPUPod`. -/
def Known (s : Books) (c : Cycle) (_ : Books) : Prop :=
  ∀ id ∈ c.containers, id ∈ idsOf s.podmap ∨ 2 ≤ c.containers.count id

/-! ## One call -/

/-- The middle loop finds the container on record when it comes to one of these. -/
def Marked (ids xs : List String) (id : String) : Prop :=
  (id ∈ ids ∧ id ∈ xs) ∨ 2 ≤ xs.count id

/-- The pod map after these containers, when `ids` were on record before. -/
structure Flagged (ids xs : List String) (podmap : List PodGPU) : Prop where
  ids_eq : idsOf podmap = enroll ids xs
  nodup : (idsOf podmap).Nodup
  flags : ∀ pod ∈ podmap, pod.runningCheck = true ↔ Marked ids xs pod.containerID

/-- Another container does not matter. -/
theorem marked_append_of_ne {ids xs : List String} {id x : String} (h : id ≠ x) :
    Marked ids (xs ++ [x]) id ↔ Marked ids xs id := by
  unfold Marked
  rw [List.mem_append, List.mem_singleton, List.count_append, List.count_singleton]
  simp [h, Ne.symm h]

/-- A container on record is marked when it comes up. -/
theorem marked_append_of_mem {ids xs : List String} {x : String} (h : x ∈ enroll ids xs) :
    Marked ids (xs ++ [x]) x := by
  rcases mem_enroll.mp h with hold | hnew
  · exact Or.inl ⟨hold, by simp⟩
  · have hcount : 0 < xs.count x := List.count_pos_iff.mpr hnew
    refine Or.inr ?_
    rw [List.count_append, List.count_singleton_self]
    omega

/-- A container that is new is not. -/
theorem not_marked_append_of_not_mem {ids xs : List String} {x : String}
    (h : x ∉ enroll ids xs) : ¬Marked ids (xs ++ [x]) x := by
  have hnew := not_or.mp (mt mem_enroll.mpr h)
  rintro (⟨hold, -⟩ | htwice)
  · exact hnew.1 hold
  · rw [List.count_append, List.count_singleton_self, List.count_eq_zero_of_not_mem hnew.2] at htwice
    omega

/-- One turn of the middle loop. -/
theorem flagged_trackPod {ids xs : List String} {acc : List PodGPU × Int64}
    (h : Flagged ids xs acc.1) (entry : PodMetric) :
    Flagged ids (xs ++ [entry.containerID]) (trackPod acc entry).1 := by
  have hids : idsOf (trackPod acc entry).1 = enroll ids (xs ++ [entry.containerID]) := by
    rw [idsOf_trackPod, h.ids_eq, enroll_append]
    rfl
  have hnodup : (idsOf (trackPod acc entry).1).Nodup := by
    rw [idsOf_trackPod]
    exact nodup_enroll h.nodup [entry.containerID]
  refine ⟨hids, hnodup, ?_⟩
  rcases trackPod_cases acc entry with ⟨j, found, hj, hsame, htrack⟩ | ⟨hnew, htrack⟩
  · have hmem : entry.containerID ∈ enroll ids xs := by
      rw [← h.ids_eq]
      exact List.mem_map.mpr ⟨found, List.mem_of_getElem? hj, hsame⟩
    intro pod hpod
    rw [htrack] at hpod
    rcases List.mem_iff_getElem?.mp hpod with ⟨k, hk⟩
    by_cases hjk : j = k
    · -- the record that is marked
      subst hjk
      rw [List.getElem?_modify_eq, hj] at hk
      cases hk
      show true = true ↔ Marked ids (xs ++ [entry.containerID]) found.containerID
      rw [hsame]
      exact iff_of_true rfl (marked_append_of_mem hmem)
    · rw [List.getElem?_modify_ne _ _ hjk] at hk
      have hdiffers : pod.containerID ≠ entry.containerID := by
        intro hequal
        have hids : (idsOf acc.1)[j]? = (idsOf acc.1)[k]? := by
          simp [idsOf, hj, hk, hsame, hequal]
        have hlt : j < (idsOf acc.1).length := by
          rw [length_idsOf]
          exact (List.getElem?_eq_some_iff.mp hj).1
        exact hjk ((List.getElem?_inj hlt h.nodup).mp hids)
      rw [marked_append_of_ne hdiffers]
      exact h.flags pod (List.mem_of_getElem? hk)
  · intro pod hpod
    rw [htrack] at hpod
    rcases List.mem_append.mp hpod with hpod | hpod
    · have hdiffers : pod.containerID ≠ entry.containerID := by
        rintro hequal
        exact hnew (List.mem_map.mpr ⟨pod, hpod, hequal⟩)
      rw [marked_append_of_ne hdiffers]
      exact h.flags pod hpod
    · rw [List.mem_singleton.mp hpod]
      rw [h.ids_eq] at hnew
      exact iff_of_false Bool.false_ne_true (not_marked_append_of_not_mem hnew)

/-- The middle loop. -/
theorem flagged_foldl {ids xs : List String} {acc : List PodGPU × Int64}
    (h : Flagged ids xs acc.1) (entries : List PodMetric) :
    Flagged ids (xs ++ entries.map PodMetric.containerID) (entries.foldl trackPod acc).1 := by
  induction entries generalizing xs acc with
  | nil => simpa using h
  | cons entry entries ih =>
      have hrest := ih (flagged_trackPod h entry)
      rwa [List.append_assoc] at hrest

/-- The flags that the three loops leave. -/
theorem flagged_trackPods {podmap : List PodGPU} (hnodup : (idsOf podmap).Nodup) (gpu : GrpcGPU) :
    Flagged (idsOf podmap) (gpu.gpuPod.map PodMetric.containerID) (trackPods podmap gpu).1 := by
  have hcleared : idsOf (podmap.map fun pod => { pod with runningCheck := false }) =
      idsOf podmap := by
    rw [idsOf, List.map_map]
    rfl
  have hstart : Flagged (idsOf podmap) []
      (podmap.map fun pod => { pod with runningCheck := false }) := by
    refine ⟨hcleared, by rwa [hcleared], ?_⟩
    intro pod hpod
    rcases List.mem_map.mp hpod with ⟨before, -, rfl⟩
    simp [Marked]
  have hloop := @flagged_foldl _ [] (_, gpu.gpuAssingment) hstart gpu.gpuPod
  rwa [List.nil_append] at hloop

/-! ## A run -/

section Step

variable {uuid : String} {s t : Books} {c : Cycle}

theorem flagged_of_cycle (hnodup : (idsOf s.podmap).Nodup) (h : cycle uuid s c = some t) :
    Flagged (idsOf s.podmap) c.containers t.podmap := by
  unfold cycle at h
  split at h
  case h_1 => cases h
  case h_2 out hout =>
    split at h
    case isFalse => cases h
    case isTrue hcontainers =>
      have hbooks := congrArg Prod.fst (trackPods_of_gpumpsmetric hout)
      cases h
      have hflagged := flagged_trackPods hnodup { c.gpu with
        gpuAssingment := s.assigned
        gpuReturn := s.returned
        gpuPod := out.gpu.gpuPod }
      rw [hcontainers] at hflagged
      rw [← hbooks] at hflagged
      exact hflagged

/-- A cycle leaves the right flags exactly if it knows its containers. -/
theorem exact_iff_known (h : Flagged (idsOf s.podmap) c.containers t.podmap) :
    Exact s c t ↔ Known s c t := by
  constructor
  · intro hexact id hid
    have hrecord : id ∈ idsOf t.podmap := by
      rw [h.ids_eq]
      exact mem_enroll.mpr (Or.inr hid)
    rcases List.mem_map.mp hrecord with ⟨pod, hpod, rfl⟩
    have hmarked := (h.flags pod hpod).mp ((hexact.flags pod hpod).mpr hid)
    exact hmarked.imp_left And.left
  · intro hknown
    have hflags : ∀ pod ∈ t.podmap, pod.runningCheck = true ↔ pod.containerID ∈ c.containers := by
      intro pod hpod
      rw [h.flags pod hpod]
      constructor
      · rintro (⟨-, hid⟩ | htwice)
        · exact hid
        · exact List.count_pos_iff.mp (by omega)
      · intro hid
        exact (hknown _ hid).imp_left fun hold => ⟨hold, hid⟩
    refine ⟨hflags, ?_⟩
    intro pod hpod hid healthCheck
    rw [(hflags pod hpod).mpr hid]
    rfl

end Step

/-- From a pod map that has no container twice, the flags are right after every
cycle of a run exactly if every cycle knows its containers. -/
theorem liveness_iff (uuid : String) (cycles : List Cycle) {s : Books}
    (hs : (idsOf s.podmap).Nodup) :
    Along (cycle uuid) Exact s cycles ↔ Along (cycle uuid) Known s cycles := by
  apply along_iff (fun s => (idsOf s.podmap).Nodup) _ hs
  intro s c t hs hstep
  have hflagged := flagged_of_cycle hs hstep
  exact ⟨exact_iff_known hflagged, fun _ => hflagged.nodup⟩

/-- A container that was on record before. -/
theorem liveness_iff_after_busyCycle :
    (idsOf busyBooks.podmap).Nodup ∧
      (Along (cycle "GPU-0") Exact busyBooks [busyCycle] ↔
        Along (cycle "GPU-0") Known busyBooks [busyCycle]) :=
  ⟨by decide, liveness_iff "GPU-0" [busyCycle] (by decide)⟩

/-- The first container on a GPU is not marked as running. -/
theorem not_exact :
    ¬∀ (uuid : String) (cycles : List Cycle), Along (cycle uuid) Exact {} cycles := by
  intro h
  obtain ⟨hexact, -⟩ := h "GPU-0" [busyCycle] _ cycle_busyCycle
  have hflag := (hexact.flags { containerID := "abc" } (by decide)).mpr (by decide)
  exact absurd hflag (by decide)

end MetricCollector.Gpumpsmetric
