import MetricCollector.GoLib.Schedule
import MetricCollector.Gpumpsmetric.Coverage
import Mathlib.Logic.Function.Basic

/-!
# Overlapping cycles

The main loop does not wait for a cycle before it starts the next one, so two
calls of `Gpumpsmetric` can be under way on one GPU.  Each sets `GPUPod` to nil,
maps its pods into it and writes a point for each of them, with its own snapshot,
its own slots and its own number of pods.

* `Mapping` is what one call works with, and `step` one step of the two.
* `exists_prefix` says what a call that maps every pod has in `GPUPod` on the way.
* `Exclusive` keeps a call from mapping into the entries of the other one and
  from writing what is not mapped, and `consistent_of_exclusive` says that this is
  enough.
-/

namespace MetricCollector.Gpumpsmetric.Overlap

open GoLib Schedule Grpcs Storage

/-! ## One call on its own -/

/-- What a call of `Gpumpsmetric` works with after its retry loop. -/
structure Mapping where
  mps : Processinfo
  data : Collection
  gpumpsmap : List GpuMpsMap
  podnum : Nat

/-- A turn of the call's mapping loop. -/
def Mapping.turn (m : Mapping) (gpuPod : List PodMetric) (i : Nat) : Exec (List PodMetric) :=
  mapTurn m.mps m.data m.gpumpsmap gpuPod i

/-- The first turns of the mapping loop, on a `GPUPod` that was set to nil. -/
def Mapping.first (m : Mapping) (n : Nat) : Exec (List PodMetric) :=
  mapPods m.mps m.data m.gpumpsmap n []

/-- On its own the call maps every pod, into these entries. -/
structure Mapping.MapsAll (m : Mapping) (entries : List PodMetric) : Prop where
  maps : m.first m.podnum = .ok entries
  length : entries.length = m.podnum

theorem first_succ (m : Mapping) (n : Nat) :
    m.first (n + 1) = (m.first n >>= fun gpuPod => m.turn gpuPod n) :=
  foldlM_range_succ _ n []

/-- A turn appends one entry at most. -/
theorem length_turn_le {m : Mapping} {gpuPod gpuPod' : List PodMetric} {i : Nat}
    (h : m.turn gpuPod i = .ok gpuPod') : gpuPod'.length ≤ gpuPod.length + 1 := by
  rcases bind_eq_ok.mp h with ⟨slot, -, h⟩
  rcases scanProcesses_eq_ok h with rfl | ⟨k, id, hmatch⟩
  · omega
  · exact (matchProcess_length hmatch).le

/-- A call that returned appended one entry at most in each of its turns. -/
theorem length_first_le {m : Mapping} {n : Nat} {gpuPod : List PodMetric}
    (h : m.first n = .ok gpuPod) : gpuPod.length ≤ n := by
  induction n generalizing gpuPod with
  | zero =>
      cases h
      exact le_rfl
  | succ n ih =>
      rw [first_succ] at h
      rcases bind_eq_ok.mp h with ⟨before, hbefore, hturn⟩
      have hle := length_turn_le hturn
      have := ih hbefore
      omega

/-- The turns before the last ones have returned too, and each of the last ones
appended one entry at most. -/
theorem exists_first {m : Mapping} (n k : Nat) {gpuPod : List PodMetric}
    (h : m.first (n + k) = .ok gpuPod) :
    ∃ before, m.first n = .ok before ∧ gpuPod.length ≤ before.length + k := by
  induction k generalizing gpuPod with
  | zero => exact ⟨gpuPod, h, le_rfl⟩
  | succ k ih =>
      rw [← Nat.add_assoc, first_succ] at h
      rcases bind_eq_ok.mp h with ⟨middle, hmiddle, hturn⟩
      obtain ⟨before, hbefore, hle⟩ := ih hmiddle
      have := length_turn_le hturn
      exact ⟨before, hbefore, by omega⟩

/-- A call that maps every pod has an entry for each pod it has been through. -/
theorem exists_prefix {m : Mapping} {entries : List PodMetric} (h : m.MapsAll entries) {n : Nat}
    (hn : n ≤ m.podnum) : ∃ gpuPod, m.first n = .ok gpuPod ∧ gpuPod.length = n := by
  have hall := h.maps
  rw [← Nat.add_sub_cancel' hn] at hall
  obtain ⟨gpuPod, hfirst, hle⟩ := exists_first n (m.podnum - n) hall
  have hlength := h.length
  have := length_first_le hfirst
  exact ⟨gpuPod, hfirst, by omega⟩

/-! ## Two calls on one GPU -/

/-- Where a call is. -/
inductive Position where
  /-- In front of `GPUPod = nil`. -/
  | reset
  /-- In front of a turn of the mapping loop. -/
  | mapping (i : Nat)
  /-- In front of a turn of the write loop. -/
  | writing (i : Nat)
  | returned
deriving DecidableEq

/-- The number of pods that a call has mapped. -/
def Position.mapped (podnum : Nat) : Position → Nat
  | .reset => 0
  | .mapping i => i
  | .writing _ => podnum
  | .returned => podnum

/-- The GPU and its two calls. -/
structure State where
  gpuPod : List PodMetric
  position : Bool → Position := fun _ => .reset
  fault : Option (Fault Frame) := none

/-- A call goes on to a position. -/
def State.goto (s : State) (call : Bool) (position : Position) : State :=
  { s with position := Function.update s.position call position }

/-- A call takes a turn of its mapping loop. -/
def State.map (s : State) (m : Mapping) (call : Bool) (i : Nat) : State :=
  match m.turn s.gpuPod i with
  | .ok gpuPod => { s.goto call (.mapping (i + 1)) with gpuPod := gpuPod }
  | .error fault => { s with fault := some fault }

/-- A call takes a turn of its write loop. -/
def State.write (s : State) (call : Bool) (i : Nat) : State :=
  match index Frame.gpumpsmetric s.gpuPod i with
  | .ok _ => s.goto call (.writing (i + 1))
  | .error fault => { s with fault := some fault }

/-- One of the two calls goes on.  There is no step after a fault. -/
def step (calls : Bool → Mapping) (s : State) (call : Bool) : Option State :=
  if s.fault ≠ none then none
  else match s.position call with
  | .reset => some { s.goto call (.mapping 0) with gpuPod := [] }
  | .mapping i =>
      if i < (calls call).podnum then some (s.map (calls call) call i)
      else some (s.goto call (.writing 0))
  | .writing i =>
      if i < (calls call).podnum then some (s.write call i) else some (s.goto call .returned)
  | .returned => none

/-- No step has faulted, and when both calls have returned `GPUPod` has the
entries of one of them. -/
structure Consistent (calls : Bool → Mapping) (s : State) : Prop where
  noFault : s.fault = none
  entries : (∀ call, s.position call = .returned) →
    ∃ call, (calls call).first (calls call).podnum = .ok s.gpuPod

/-- `GPUPod` has what the call has mapped so far. -/
def Holds (calls : Bool → Mapping) (s : State) (call : Bool) : Prop :=
  (calls call).first ((s.position call).mapped (calls call).podnum) = .ok s.gpuPod

/-- A call maps a pod when `GPUPod` has what it has mapped so far, and writes a pod
when `GPUPod` has what one of the calls has mapped so far and that call is past the
mapping of the pod. -/
def Exclusive (calls : Bool → Mapping) (s : State) (call : Bool) (_ : State) : Prop :=
  match s.position call with
  | .mapping i => i < (calls call).podnum → Holds calls s call
  | .writing i => i < (calls call).podnum →
      ∃ holder, Holds calls s holder ∧ i < (s.position holder).mapped (calls holder).podnum
  | _ => True

/-- Once a call has begun, `GPUPod` has what one that has begun has mapped so far. -/
structure Held (calls : Bool → Mapping) (s : State) : Prop where
  noFault : s.fault = none
  bound : ∀ call, (s.position call).mapped (calls call).podnum ≤ (calls call).podnum
  held : ∀ call, s.position call ≠ .reset →
    ∃ holder, s.position holder ≠ .reset ∧ Holds calls s holder

section Steps

variable {calls : Bool → Mapping} {s t : State}

@[simp] theorem goto_position_self (s : State) (call : Bool) (position : Position) :
    (s.goto call position).position call = position :=
  Function.update_self _ _ _

theorem goto_position_of_ne (s : State) {call other : Bool} (h : other ≠ call)
    (position : Position) : (s.goto call position).position other = s.position other :=
  Function.update_of_ne h _ _

/-- A call goes on without a change of what it has mapped. -/
theorem Held.goto (h : Held calls s) {call : Bool} {position : Position}
    (hbegun : s.position call ≠ .reset) (hposition : position ≠ .reset)
    (hmapped : position.mapped (calls call).podnum =
      (s.position call).mapped (calls call).podnum) :
    Held calls (s.goto call position) := by
  have hsame : ∀ other, ((s.goto call position).position other).mapped (calls other).podnum =
      (s.position other).mapped (calls other).podnum := by
    intro other
    by_cases hother : other = call
    · subst hother
      rw [goto_position_self, hmapped]
    · rw [goto_position_of_ne s hother]
  refine ⟨h.noFault, fun other => (hsame other).trans_le (h.bound other), ?_⟩
  intro _ _
  obtain ⟨holder, hholder, hholds⟩ := h.held call hbegun
  refine ⟨holder, ?_, ?_⟩
  · by_cases hother : holder = call
    · subst hother
      rwa [goto_position_self]
    · rwa [goto_position_of_ne s hother]
  · show (calls holder).first (((s.goto call position).position holder).mapped _) = _
    rw [hsame]
    exact hholds

/-- `GPUPod` has what a call has mapped. -/
theorem Held.take (h : Held calls s) {call : Bool} {position : Position} {gpuPod : List PodMetric}
    (hposition : position ≠ .reset)
    (hbound : position.mapped (calls call).podnum ≤ (calls call).podnum)
    (hfirst : (calls call).first (position.mapped (calls call).podnum) = .ok gpuPod) :
    Held calls { s.goto call position with gpuPod := gpuPod } where
  noFault := h.noFault
  bound other := by
    show ((s.goto call position).position other).mapped _ ≤ _
    by_cases hother : other = call
    · subst hother
      rwa [goto_position_self]
    · rw [goto_position_of_ne s hother]
      exact h.bound other
  held _ _ := by
    refine ⟨call, ?_, ?_⟩
    · show (s.goto call position).position call ≠ .reset
      rwa [goto_position_self]
    · show (calls call).first (((s.goto call position).position call).mapped _) = _
      rwa [goto_position_self]

/-- A turn of the mapping loop after the call's own entries. -/
theorem Held.map (h : Held calls s) {call : Bool} {entries : List PodMetric}
    (hall : (calls call).MapsAll entries) {i : Nat} (hlt : i < (calls call).podnum)
    (hposition : s.position call = .mapping i) (hholds : Holds calls s call) :
    Held calls (s.map (calls call) call i) := by
  have hfirst : (calls call).first i = .ok s.gpuPod := by
    unfold Holds at hholds
    rwa [hposition] at hholds
  obtain ⟨gpuPod, hnext, -⟩ := exists_prefix hall hlt
  have hturn : (calls call).turn s.gpuPod i = .ok gpuPod := by
    rw [first_succ, hfirst, ok_bind] at hnext
    exact hnext
  unfold State.map
  rw [hturn]
  exact h.take Position.noConfusion hlt hnext

/-- A turn of the write loop on entries that are there. -/
theorem Held.write (h : Held calls s) {call holder : Bool} {entries : List PodMetric}
    (hall : (calls holder).MapsAll entries) {i : Nat} (hposition : s.position call = .writing i)
    (hholds : Holds calls s holder)
    (hpast : i < (s.position holder).mapped (calls holder).podnum) :
    Held calls (s.write call i) := by
  obtain ⟨gpuPod, hfirst, hlength⟩ := exists_prefix hall (h.bound holder)
  unfold Holds at hholds
  rw [hholds] at hfirst
  cases hfirst
  obtain ⟨entry, hentry⟩ := exists_index_of_lt Frame.gpumpsmetric (hpast.trans_eq hlength.symm)
  unfold State.write
  rw [hentry]
  exact h.goto (by simp [hposition]) Position.noConfusion (by rw [hposition]; rfl)

/-- A step in which the calls keep to their own entries. -/
theorem Held.step (h : Held calls s) (hall : ∀ call, ∃ entries, (calls call).MapsAll entries)
    {call : Bool} (hstep : step calls s call = some t) (hexclusive : Exclusive calls s call t) :
    Held calls t := by
  unfold Overlap.step at hstep
  rw [if_neg (not_not.mpr h.noFault)] at hstep
  unfold Exclusive at hexclusive
  cases hposition : s.position call with
  | reset =>
      simp only [hposition] at hstep
      cases hstep
      exact h.take Position.noConfusion (Nat.zero_le _) rfl
  | mapping i =>
      simp only [hposition] at hstep hexclusive
      by_cases hlt : i < (calls call).podnum
      · rw [if_pos hlt] at hstep
        cases hstep
        obtain ⟨entries, hentries⟩ := hall call
        exact h.map hentries hlt hposition (hexclusive hlt)
      · rw [if_neg hlt] at hstep
        cases hstep
        have hbound := h.bound call
        rw [hposition] at hbound
        have hdone : (calls call).podnum = i := Nat.le_antisymm (Nat.not_lt.mp hlt) hbound
        exact h.goto (by simp [hposition]) Position.noConfusion (by rw [hposition]; exact hdone)
  | writing i =>
      simp only [hposition] at hstep hexclusive
      by_cases hlt : i < (calls call).podnum
      · rw [if_pos hlt] at hstep
        cases hstep
        obtain ⟨holder, hholds, hpast⟩ := hexclusive hlt
        obtain ⟨entries, hentries⟩ := hall holder
        exact h.write hentries hposition hholds hpast
      · rw [if_neg hlt] at hstep
        cases hstep
        exact h.goto (by simp [hposition]) Position.noConfusion (by rw [hposition]; rfl)
  | returned =>
      simp only [hposition] at hstep
      cases hstep

/-- When both calls have returned, `GPUPod` has the entries of one of them. -/
theorem Held.consistent (h : Held calls s) : Consistent calls s where
  noFault := h.noFault
  entries hreturned := by
    obtain ⟨holder, -, hholds⟩ := h.held true (by rw [hreturned true]; exact Position.noConfusion)
    unfold Holds at hholds
    rw [hreturned holder] at hholds
    exact ⟨holder, hholds⟩

end Steps

/-! ## Runs -/

/-- Both calls are in front of their reset. -/
theorem held_start (calls : Bool → Mapping) (gpuPod : List PodMetric) :
    Held calls { gpuPod := gpuPod } where
  noFault := rfl
  bound _ := Nat.zero_le _
  held _ h := absurd rfl h

/-- Calls that keep to their own entries stay consistent in every schedule. -/
theorem consistent_of_exclusive {calls : Bool → Mapping}
    (hall : ∀ call, ∃ entries, (calls call).MapsAll entries) {gpuPod : List PodMetric}
    {schedule : List Bool}
    (hexclusive : Along (step calls) (Exclusive calls) { gpuPod := gpuPod } schedule) {s : State}
    (hrun : run (step calls) { gpuPod := gpuPod } schedule = some s) : Consistent calls s :=
  (run_inv_of_along (Held calls) (fun _ _ _ h hstep hp => h.step hall hstep hp)
    (held_start calls gpuPod) hexclusive hrun).consistent

/-- A call that has found two pods with a process each. -/
def twoPods : Mapping where
  mps := ⟨[⟨1, 10⟩, ⟨2, 20⟩], ["python", "python"], ["abc", "def"]⟩
  data := ⟨[{}]⟩
  gpumpsmap := [{ containerID := "containerd://abc" }, { containerID := "containerd://def" }]
  podnum := 2

theorem twoPods_mapsAll : ∃ entries, twoPods.MapsAll entries := by
  refine ⟨[{ processName := "python", podPid := 1, podGPUMemory := 10, containerID := "abc" },
    { processName := "python", podPid := 2, podGPUMemory := 20, containerID := "def" }], ?_, rfl⟩
  decide

/-- The second call starts when the first one has mapped its pods, and stays ahead
of its writes. -/
theorem consistent_of_late_writes :
    ∃ s, run (step fun _ => twoPods) { gpuPod := [] } [false, false, false, false, true, true, false,
      true, false, false, true, true, true, true] = some s ∧ Consistent (fun _ => twoPods) s := by
  refine ⟨_, rfl, ?_⟩
  refine @consistent_of_exclusive (fun _ => twoPods) (fun _ => twoPods_mapsAll) []
    [false, false, false, false, true, true, false, true, false, false, true, true, true, true]
    ?_ _ rfl
  have hzero : 0 < 1 := Nat.one_pos
  have hone : 1 < 2 := Nat.one_lt_two
  have htwo : 0 < 2 := Nat.two_pos
  apply along_cons rfl trivial
  apply along_cons rfl (fun _ => rfl)
  apply along_cons rfl (fun _ => rfl)
  apply along_cons rfl (fun _ => rfl)
  apply along_cons rfl trivial
  apply along_cons rfl (fun _ => rfl)
  apply along_cons rfl (fun _ => ⟨true, rfl, hzero⟩)
  apply along_cons rfl (fun _ => rfl)
  apply along_cons rfl (fun _ => ⟨true, rfl, hone⟩)
  apply along_cons rfl (fun h => absurd h (by decide))
  apply along_cons rfl (fun _ => rfl)
  apply along_cons rfl (fun _ => ⟨true, rfl, htwo⟩)
  apply along_cons rfl (fun _ => ⟨true, rfl, hone⟩)
  apply along_cons rfl (fun h => absurd h (by decide))
  trivial

/-- The second call resets `GPUPod` between the two pods of the first one. -/
theorem mapping_faults_after_reset :
    (∃ entries, twoPods.MapsAll entries) ∧
      ∃ s, run (step fun _ => twoPods) { gpuPod := [] } [false, false, true, false] = some s ∧
        ¬Consistent (fun _ => twoPods) s := by
  refine ⟨twoPods_mapsAll, _, rfl, ?_⟩
  intro h
  exact absurd h.noFault (by decide)

end MetricCollector.Gpumpsmetric.Overlap
