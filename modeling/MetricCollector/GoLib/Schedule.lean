import Mathlib.Logic.Basic

/-!
# Schedules of atomic steps

A concurrent system whose calls are atomic is a partial step function: `step s l`
is the state after the event `l`, or `none` where the event is not enabled.  A
schedule is a list of events, in the order in which they take effect.

`Along` says that every step of a schedule has a property.  Two rules prove such
a statement from single steps:

* `along_of_inv` carries an invariant that gives the property of each step;
* `along_iff` replaces the property by another one, under an invariant that
  holds as long as the property has held.

`run` is the state at the end of a schedule whose events are all enabled, and
`run_inv` carries an invariant to it.  `run_inv_of_along` does so for an
invariant that is kept only by the steps with a property, and `run_iff_along`
for one that no other step keeps.
-/

namespace GoLib.Schedule

variable {S L : Type}

/-- Every step that the schedule takes from a state has the property. -/
def Along (step : S → L → Option S) (p : S → L → S → Prop) : S → List L → Prop
  | _, [] => True
  | s, l :: ls => ∀ t, step s l = some t → p s l t ∧ Along step p t ls

variable {step : S → L → Option S} {p q : S → L → S → Prop}

/-- A step with the property in front of a schedule whose steps have it. -/
theorem along_cons {s t : S} {l : L} {ls : List L} (hstep : step s l = some t) (hp : p s l t)
    (hls : Along step p t ls) : Along step p s (l :: ls) := by
  intro u hu
  rw [hstep] at hu
  cases hu
  exact ⟨hp, hls⟩

/-- A property of the events alone. -/
theorem along_of_forall {q : L → Prop} {ls : List L} (h : ∀ l ∈ ls, q l) (s : S) :
    Along step (fun _ l _ => q l) s ls := by
  induction ls generalizing s with
  | nil => trivial
  | cons l ls ih =>
      intro t _
      exact ⟨h l List.mem_cons_self, ih (fun l' hl' => h l' (List.mem_cons_of_mem l hl')) t⟩

/-- A property that follows from an invariant holds at every step. -/
theorem along_of_inv (Inv : S → Prop)
    (hstep : ∀ s l t, Inv s → step s l = some t → p s l t ∧ Inv t) {s : S} (hs : Inv s)
    (ls : List L) : Along step p s ls := by
  induction ls generalizing s with
  | nil => trivial
  | cons l ls ih =>
      intro t ht
      rcases hstep s l t hs ht with ⟨hp, hinv⟩
      exact ⟨hp, ih hinv⟩

/-- Two properties hold along the same schedules if they agree at each step
before which one of them has always held. -/
theorem along_iff (Inv : S → Prop)
    (hstep : ∀ s l t, Inv s → step s l = some t → (p s l t ↔ q s l t) ∧ (p s l t → Inv t))
    {s : S} (hs : Inv s) (ls : List L) : Along step p s ls ↔ Along step q s ls := by
  induction ls generalizing s with
  | nil => exact Iff.rfl
  | cons l ls ih =>
      constructor
      · intro h t ht
        rcases hstep s l t hs ht with ⟨hsame, hkeep⟩
        rcases h t ht with ⟨hp, hrest⟩
        exact ⟨hsame.mp hp, (ih (hkeep hp)).mp hrest⟩
      · intro h t ht
        rcases hstep s l t hs ht with ⟨hsame, hkeep⟩
        rcases h t ht with ⟨hq, hrest⟩
        have hp := hsame.mpr hq
        exact ⟨hp, (ih (hkeep hp)).mpr hrest⟩

/-- The state after a schedule. -/
def run (step : S → L → Option S) : S → List L → Option S
  | s, [] => some s
  | s, l :: ls => (step s l).bind fun t => run step t ls

@[simp] theorem run_nil (step : S → L → Option S) (s : S) : run step s [] = some s := rfl

@[simp] theorem run_cons (step : S → L → Option S) (s : S) (l : L) (ls : List L) :
    run step s (l :: ls) = (step s l).bind fun t => run step t ls := rfl

/-- A schedule in two parts. -/
theorem run_append (step : S → L → Option S) (s : S) (ls ls' : List L) :
    run step s (ls ++ ls') = (run step s ls).bind fun t => run step t ls' := by
  induction ls generalizing s with
  | nil => rfl
  | cons l ls ih =>
      rw [List.cons_append, run_cons, run_cons, Option.bind_assoc]
      congr 1
      funext t
      exact ih t

/-- What every step keeps holds at the end. -/
theorem run_inv (Inv : S → Prop) (hstep : ∀ s l t, Inv s → step s l = some t → Inv t) {s t : S}
    (hs : Inv s) {ls : List L} (hrun : run step s ls = some t) : Inv t := by
  induction ls generalizing s with
  | nil =>
      rw [run_nil] at hrun
      cases hrun
      exact hs
  | cons l ls ih =>
      rw [run_cons, Option.bind_eq_some_iff] at hrun
      rcases hrun with ⟨u, hu, hrest⟩
      exact ih (hstep s l u hs hu) hrest

/-- What every step with the property keeps holds at the end of a schedule whose
steps all have it. -/
theorem run_inv_of_along (Inv : S → Prop)
    (hstep : ∀ s l t, Inv s → step s l = some t → p s l t → Inv t) {s t : S} (hs : Inv s)
    {ls : List L} (halong : Along step p s ls) (hrun : run step s ls = some t) : Inv t := by
  induction ls generalizing s with
  | nil =>
      rw [run_nil] at hrun
      cases hrun
      exact hs
  | cons l ls ih =>
      rw [run_cons, Option.bind_eq_some_iff] at hrun
      rcases hrun with ⟨u, hu, hrest⟩
      rcases halong u hu with ⟨hp, halong'⟩
      exact ih (hstep s l u hs hu hp) halong' hrest

/-- What a step keeps exactly when it has the property, and never regains, holds
at the end of a schedule exactly when all of its steps have the property. -/
theorem run_iff_along (Inv Good : S → Prop)
    (hstep : ∀ s l t, Inv s → step s l = some t → Inv t ∧ (Good t ↔ Good s ∧ p s l t))
    {s t : S} (hs : Inv s) {ls : List L} (hrun : run step s ls = some t) :
    Good t ↔ Good s ∧ Along step p s ls := by
  induction ls generalizing s with
  | nil =>
      rw [run_nil] at hrun
      cases hrun
      exact ⟨fun h => ⟨h, trivial⟩, And.left⟩
  | cons l ls ih =>
      rw [run_cons, Option.bind_eq_some_iff] at hrun
      rcases hrun with ⟨u, hu, hrest⟩
      obtain ⟨hinv, hkeep⟩ := hstep s l u hs hu
      rw [ih hinv hrest, hkeep]
      constructor
      · intro h
        exact ⟨h.1.1, along_cons hu h.1.2 h.2⟩
      · intro h
        obtain ⟨hp, hls⟩ := h.2 u hu
        exact ⟨⟨h.1, hp⟩, hls⟩

/-- Where each step adds one to a count, the count is the length of the schedule. -/
theorem run_count (Inv : S → Prop) (count : S → Nat)
    (hstep : ∀ s l t, Inv s → step s l = some t → Inv t ∧ count t = count s + 1) {s t : S}
    (hs : Inv s) {ls : List L} (hrun : run step s ls = some t) : count t = count s + ls.length := by
  induction ls generalizing s with
  | nil =>
      rw [run_nil] at hrun
      cases hrun
      rfl
  | cons l ls ih =>
      rw [run_cons, Option.bind_eq_some_iff] at hrun
      rcases hrun with ⟨u, hu, hrest⟩
      obtain ⟨hinv, hcount⟩ := hstep s l u hs hu
      rw [ih hinv hrest, List.length_cons]
      omega

/-- Where the count is bounded besides, and a step is possible until the end, there
is a schedule that ends. -/
theorem exists_run (Inv Done : S → Prop) (count : S → Nat) (bound : Nat)
    (hstep : ∀ s l t, Inv s → step s l = some t → Inv t ∧ count t = count s + 1)
    (hbound : ∀ s, Inv s → count s ≤ bound)
    (hmoves : ∀ s, Inv s → ¬Done s → ∃ l, step s l ≠ none) {s : S} (hs : Inv s) :
    ∃ ls t, run step s ls = some t ∧ Done t := by
  induction hleft : bound - count s generalizing s with
  | zero =>
      refine ⟨[], s, rfl, Classical.byContradiction fun hgoes => ?_⟩
      obtain ⟨l, hl⟩ := hmoves s hs hgoes
      obtain ⟨t, ht⟩ := Option.ne_none_iff_exists'.mp hl
      obtain ⟨hinv, hcount⟩ := hstep s l t hs ht
      have hle := hbound t hinv
      omega
  | succ left ih =>
      rcases Classical.em (Done s) with hdone | hdone
      · exact ⟨[], s, rfl, hdone⟩
      · obtain ⟨l, hl⟩ := hmoves s hs hdone
        obtain ⟨t, ht⟩ := Option.ne_none_iff_exists'.mp hl
        obtain ⟨hinv, hcount⟩ := hstep s l t hs ht
        obtain ⟨ls, u, hu, hend⟩ := ih hinv (by omega)
        refine ⟨l :: ls, u, ?_, hend⟩
        rw [run_cons, ht]
        exact hu

end GoLib.Schedule
