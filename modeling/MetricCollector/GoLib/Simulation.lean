import MetricCollector.GoLib.Schedule

/-!
# One system that follows another

A schedule of one system of atomic steps can be followed by a second system whose
states stay related to the states of the first.

* `run_filter` is for a second system that sees only some of the events.  The
  other events change nothing that the relation speaks of.
* `trace` is what is observed of a schedule, and `run_follow` is for a second system
  with events of its own, in which the same is observed.  It answers each step of
  the first with some steps, or with none.
-/

namespace GoLib.Schedule

variable {S T L M O : Type}

section Follow

variable {step : S → L → Option S}

/-- A system that takes the same steps at the events it sees, and is not
concerned by the others, follows a schedule without the others. -/
theorem run_filter {step' : T → L → Option T} (R : S → T → Prop) (sees : L → Bool)
    (hseen : ∀ s s' t l, R s t → sees l = true → step s l = some s' →
      ∃ t', step' t l = some t' ∧ R s' t')
    (hunseen : ∀ s s' t l, R s t → sees l = false → step s l = some s' → R s' t)
    {s s' : S} {t : T} (hs : R s t) {ls : List L} (hrun : run step s ls = some s') :
    ∃ t', run step' t (ls.filter sees) = some t' ∧ R s' t' := by
  induction ls generalizing s t with
  | nil =>
      cases hrun
      exact ⟨t, rfl, hs⟩
  | cons l ls ih =>
      rw [run_cons, Option.bind_eq_some_iff] at hrun
      rcases hrun with ⟨u, hu, hrest⟩
      cases hsees : sees l with
      | true =>
          obtain ⟨t', ht', hrel⟩ := hseen s u t l hs hsees hu
          obtain ⟨t'', hrun', hrel'⟩ := ih hrel hrest
          refine ⟨t'', ?_, hrel'⟩
          rw [List.filter_cons_of_pos hsees, run_cons, ht', Option.bind_some]
          exact hrun'
      | false =>
          rw [List.filter_cons_of_neg (by rw [hsees]; exact Bool.false_ne_true)]
          exact ih (hunseen s u t l hs hsees hu) hrest

/-- What is observed of a schedule, step by step. -/
def trace (step : S → L → Option S) (obs : S → L → S → List O) : S → List L → List O
  | _, [] => []
  | s, l :: ls =>
      match step s l with
      | some t => obs s l t ++ trace step obs t ls
      | none => []

theorem trace_cons {obs : S → L → S → List O} {s t : S} {l : L} (h : step s l = some t)
    (ls : List L) : trace step obs s (l :: ls) = obs s l t ++ trace step obs t ls := by
  rw [trace, h]

/-- A system that answers each step with some of its own, in which the same is
observed, follows a schedule. -/
theorem run_follow {step' : T → M → Option T} (R : S → T → Prop) (obs : S → L → S → List O)
    (out : M → O) {ls : List L}
    (hstep : ∀ l ∈ ls, ∀ s s' t, R s t → step s l = some s' →
      ∃ ms t', run step' t ms = some t' ∧ ms.map out = obs s l s' ∧ R s' t')
    {s s' : S} {t : T} (hs : R s t) (hrun : run step s ls = some s') :
    ∃ ms t', run step' t ms = some t' ∧ ms.map out = trace step obs s ls ∧ R s' t' := by
  induction ls generalizing s t with
  | nil =>
      cases hrun
      exact ⟨[], t, rfl, rfl, hs⟩
  | cons l ls ih =>
      rw [run_cons, Option.bind_eq_some_iff] at hrun
      rcases hrun with ⟨u, hu, hrest⟩
      obtain ⟨ms, t', ht', hout, hrel⟩ := hstep l List.mem_cons_self s u t hs hu
      obtain ⟨ms', t'', ht'', hout', hrel'⟩ :=
        ih (fun l' hl' => hstep l' (List.mem_cons_of_mem l hl')) hrel hrest
      refine ⟨ms ++ ms', t'', ?_, ?_, hrel'⟩
      · rw [run_append, ht', Option.bind_some]
        exact ht''
      · rw [List.map_append, hout, hout', trace_cons hu]

end Follow

end GoLib.Schedule
