import MetricCollector.Gpumetric
import MetricCollector.Main

/-!
# The number of pods

`Gpumetric` starts the analyzer on a copy of the node, and counts the pods of
all GPUs after that.  The copy shares the GPU records with the node, but has a
number of its own: the one that the cycle before has counted.

* `gpumetric_eq_ok` and `snapshot_of_driver` are what one cycle hands on.
* `current_iff_unchanged` is the copy of one cycle, and `snapshot_current_iff`
  the copies of any sequence of them.
-/

namespace MetricCollector.Main

open GoLib Schedule Grpcs Storage Influx Gpumpsmetric Nvlink Server

variable {Device : Type}

/-! ## A cycle -/

/-- What is left of a cycle when it returns. -/
structure Outcome where
  vars : Vars
  /-- `*Node`, as the analyzer is given it. -/
  snapshot : Option GrpcNode := none
  /-- The `nodemetric` point. -/
  point : Option Point := none

/-- `Gpumetric`. -/
def gpumetric (init : Bool) (nvml : Nvml Device) (turns : Nat → Reading) (data : Collection)
    (nodecpu nodememory : Int64) (nodename : String) (v : Vars) : Exec Outcome := do
  if init then
    let count := deviceCount init nvml
    let v ← (List.range count).foldlM (fun v i => gpumetricTurn nvml (turns i) data count i v) v
    let snapshot := v.collector.node
    let v := countTotal v
    let point := Gpumetric.nodePoint nodecpu nodememory nodename (Int64.ofNat count)
      ((List.range count).map (uuidAt nvml)) v.collector.node
    return { vars := v, snapshot := some snapshot, point := point }
  else
    return { vars := v, point := Gpumetric.shortNodePoint nodecpu nodememory nodename }

/-- One turn of the main loop with its cycle, and the containers that the cycle
has in `GPUPod` of each of its GPUs in the end. -/
structure Round (Device : Type) where
  readings : Readings
  data : Collection
  nodename : String
  init : Bool
  nvml : Nvml Device
  turns : Nat → Reading
  containers : List (List String)

/-- The number of GPUs that the cycle goes through. -/
def Round.count (round : Round Device) : Nat := deviceCount round.init round.nvml

/-- The number of pods that the cycle collects. -/
def Round.pods (round : Round Device) : Nat := (round.containers.map List.length).sum

/-- The main loop collects, and the cycle runs to its end. -/
def Round.run (round : Round Device) (v : Vars) : Exec Outcome :=
  gpumetric round.init round.nvml round.turns round.data round.readings.nanocpu
    round.readings.nodememory round.nodename
    { v with collector := v.collector.update round.readings }

/-- The containers in `GPUPod` of the first GPUs. -/
def Vars.containers (v : Vars) (count : Nat) : List (List String) :=
  (v.gpus.take count).map fun gpu => gpu.gpuPod.map PodMetric.containerID

/-- A cycle that returns with its containers. -/
def roundStep (s : Outcome) (round : Round Device) : Option Outcome :=
  match round.run s.vars with
  | .error _ => none
  | .ok t => if t.vars.containers round.count = round.containers then some t else none

/-- The analyzer is given the number of pods that the cycle has collected, and
`totalpod` is the same number. -/
structure Current (_ : Outcome) (round : Round Device) (t : Outcome) : Prop where
  collected : ∀ node, t.snapshot = some node → node.totalPodnum = Int64.ofNat round.pods
  written : ∀ node, t.snapshot = some node →
    ∃ pt, t.point = some pt ∧ pt.fields.lookup "totalpod" = some (.int node.totalPodnum)

/-- The number of pods on these records. -/
def podsOf (gpus : List GrpcGPU) : Nat := (gpus.map fun gpu => gpu.gpuPod.length).sum

/-- A cycle that finds the driver collects as many pods as were counted last, and
there are none on the records that it does not come to. -/
def Unchanged (s : Outcome) (round : Round Device) (_ : Outcome) : Prop :=
  round.init = true →
    s.vars.collector.node.totalPodnum = Int64.ofNat round.pods ∧
      Int64.ofNat (podsOf (s.vars.gpus.drop round.count)) = 0

/-! ## Counting pods -/

/-- The last loop of a cycle counts the pods on all records. -/
theorem totalPodnum_countTotal (v : Vars) :
    (countTotal v).collector.node.totalPodnum = Int64.ofNat (podsOf v.gpus) := by
  have hsum : ∀ gpus : List GrpcGPU,
      (gpus.map fun gpu => Int64.ofNat gpu.gpuPod.length).sum = Int64.ofNat (podsOf gpus) := by
    intro gpus
    induction gpus with
    | nil => rfl
    | cons gpu gpus ih =>
        have hcons : podsOf (gpu :: gpus) = gpu.gpuPod.length + podsOf gpus := rfl
        rw [hcons, Int64.ofNat_add, ← ih]
        rfl
  exact hsum v.gpus

/-- The pods of a cycle are on the records that it comes to. -/
theorem podsOf_eq (v : Vars) (count : Nat) :
    podsOf v.gpus =
      ((v.containers count).map List.length).sum + podsOf (v.gpus.drop count) := by
  have htake : ((v.containers count).map List.length).sum = podsOf (v.gpus.take count) := by
    unfold Vars.containers podsOf
    rw [List.map_map]
    congr 1
    apply List.map_congr_left
    intro gpu _
    exact List.length_map _
  rw [htake]
  conv_lhs => rw [← List.take_append_drop count v.gpus]
  rw [podsOf, List.map_append, List.sum_append]
  rfl

/-! ## What a cycle leaves -/

/-- What the turns of a cycle leave alone. -/
structure Scanned (count : Nat) (v w : Vars) : Prop where
  total : w.collector.node.totalPodnum = v.collector.node.totalPodnum
  rest : w.gpus.drop count = v.gpus.drop count

theorem scanned_of_turns {nvml : Nvml Device} {turns : Nat → Reading} {data : Collection}
    {count : Nat} {v w : Vars}
    (h : (List.range count).foldlM
      (fun v i => gpumetricTurn nvml (turns i) data count i v) v = .ok w) :
    Scanned count v w := by
  refine (foldlM_inv (Scanned count v) (fun _ => True) ?_ ⟨rfl, rfl⟩ h).1
  intro u u' i hi hu hturn
  obtain ⟨entry, gpu, out, -, -, -, rfl⟩ := gpumetricTurn_eq_ok hturn
  refine ⟨⟨hu.total, ?_⟩, trivial⟩
  rw [← hu.rest]
  exact List.drop_set_of_lt (List.mem_range.mp hi)

/-- What a cycle hands on: the number of the copy is the one from before, and
`totalpod` is the number of pods after the turns. -/
theorem gpumetric_eq_ok {nvml : Nvml Device} {turns : Nat → Reading} {data : Collection}
    {nodecpu nodememory : Int64} {nodename : String} {v : Vars} {t : Outcome}
    (h : gpumetric true nvml turns data nodecpu nodememory nodename v = .ok t) :
    ∃ node pt, t.snapshot = some node ∧ t.point = some pt ∧
      node.totalPodnum = v.collector.node.totalPodnum ∧
      pt.fields.lookup "totalpod" = some (.int (Int64.ofNat (podsOf t.vars.gpus))) ∧
      t.vars.gpus.drop (deviceCount true nvml) = v.gpus.drop (deviceCount true nvml) := by
  unfold gpumetric at h
  rw [if_pos rfl] at h
  rcases bind_eq_ok.mp h with ⟨w, hturns, h⟩
  cases h
  have hscanned := scanned_of_turns hturns
  obtain ⟨pt, hpt, hfield⟩ := Gpumetric.exists_nodePoint nodecpu nodememory nodename
    (Int64.ofNat (deviceCount true nvml))
    ((List.range (deviceCount true nvml)).map (uuidAt nvml)) (countTotal w).collector.node
  rw [totalPodnum_countTotal] at hfield
  exact ⟨w.collector.node, pt, rfl, hpt, hscanned.total, hfield, hscanned.rest⟩

/-- A round that is taken has run to its end with its containers. -/
theorem roundStep_eq_some {s t : Outcome} {round : Round Device}
    (h : roundStep s round = some t) :
    round.run s.vars = .ok t ∧ t.vars.containers round.count = round.containers := by
  unfold roundStep at h
  split at h
  case h_1 => cases h
  case h_2 t' hrun =>
    split at h
    case isFalse => cases h
    case isTrue hcontainers =>
      cases h
      exact ⟨hrun, hcontainers⟩

/-- A cycle without the driver hands nothing to the analyzer. -/
theorem snapshot_of_no_driver {s t : Outcome} {round : Round Device}
    (h : roundStep s round = some t) (hinit : round.init = false) : t.snapshot = none := by
  have hrun := (roundStep_eq_some h).1
  unfold Round.run at hrun
  rw [hinit] at hrun
  cases hrun
  rfl

/-- Any other hands on the number from before and writes the number of the pods that it
has collected and of those on the other records. -/
theorem snapshot_of_driver {s t : Outcome} {round : Round Device}
    (h : roundStep s round = some t) (hinit : round.init = true) :
    ∃ node pt, t.snapshot = some node ∧ t.point = some pt ∧
      node.totalPodnum = s.vars.collector.node.totalPodnum ∧
      pt.fields.lookup "totalpod" = some (.int
        (Int64.ofNat round.pods + Int64.ofNat (podsOf (s.vars.gpus.drop round.count)))) := by
  obtain ⟨hrun, hcontainers⟩ := roundStep_eq_some h
  have hcount : round.count = deviceCount true round.nvml := by
    rw [Round.count, hinit]
  unfold Round.run at hrun
  rw [hinit] at hrun
  obtain ⟨node, pt, hsnapshot, hpoint, htotal, hfield, hrest⟩ := gpumetric_eq_ok hrun
  rw [← hcount] at hrest
  have hpods : podsOf t.vars.gpus = round.pods + podsOf (s.vars.gpus.drop round.count) := by
    rw [podsOf_eq t.vars round.count, hcontainers, hrest]
    rfl
  rw [hpods, Int64.ofNat_add] at hfield
  exact ⟨node, pt, hsnapshot, hpoint, htotal, hfield⟩

/-- The copy of a cycle is current exactly when the number of pods has not changed. -/
theorem current_iff_unchanged {s t : Outcome} {round : Round Device}
    (h : roundStep s round = some t) : Current s round t ↔ Unchanged s round t := by
  cases hinit : round.init with
  | false =>
      have hnone := snapshot_of_no_driver h hinit
      refine iff_of_true ⟨?_, ?_⟩ ?_
      · intro node hnode
        rw [hnone] at hnode
        cases hnode
      · intro node hnode
        rw [hnone] at hnode
        cases hnode
      · intro hfound
        rw [hinit] at hfound
        cases hfound
  | true =>
      obtain ⟨node, pt, hsnapshot, hpoint, htotal, hfield⟩ := snapshot_of_driver h hinit
      constructor
      · intro hcurrent _
        have hcollected := hcurrent.collected node hsnapshot
        obtain ⟨pt', hpt', hwritten⟩ := hcurrent.written node hsnapshot
        rw [hpoint] at hpt'
        cases hpt'
        rw [hfield, hcollected] at hwritten
        injection hwritten with hwritten
        injection hwritten with hwritten
        exact ⟨htotal.symm.trans hcollected, Int64.add_eq_left.mp hwritten⟩
      · intro hunchanged
        obtain ⟨hsame, hnone⟩ := hunchanged hinit
        have hcollected : node.totalPodnum = Int64.ofNat round.pods := htotal.trans hsame
        refine ⟨?_, ?_⟩
        · intro node' hnode'
          rw [hsnapshot] at hnode'
          cases hnode'
          exact hcollected
        · intro node' hnode'
          rw [hsnapshot] at hnode'
          cases hnode'
          refine ⟨pt, hpoint, ?_⟩
          rw [hfield, hcollected, hnone, Int64.add_zero]

/-! ## Cycles one after another -/

/-- The copies of a sequence of cycles are all current exactly when every cycle
finds the number of pods unchanged. -/
theorem snapshot_current_iff (s : Outcome) (rounds : List (Round Device)) :
    Along roundStep Current s rounds ↔ Along roundStep Unchanged s rounds := by
  apply along_iff (fun _ => True) _ trivial
  intro s round t _ hstep
  exact ⟨current_iff_unchanged hstep, fun _ => trivial⟩

/-- A round whose cycle finds process 1 in the only pod. -/
def busyRound : Round Unit where
  readings := {}
  data := ⟨[{}]⟩
  nodename := "node"
  init := true
  nvml := oneGPU
  turns _ := { idleReading with attempts := fun _ => onePodOneProcess }
  containers := [["abc"]]

/-- The analyzer does not see the first pod in the cycle that collects it. -/
theorem not_snapshot_current :
    ¬∀ v, startup true oneGPU (fun _ => {}) "node" = .ok v →
      ∀ rounds : List (Round Unit), Along roundStep Current { vars := v } rounds := by
  intro h
  have hcurrent := h _ rfl [busyRound]
  obtain ⟨hround, -⟩ := hcurrent _ rfl
  exact absurd (hround.collected _ rfl) (by decide)

end MetricCollector.Main
