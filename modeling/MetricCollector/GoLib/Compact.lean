import MetricCollector.GoLib.Runtime

/-!
# Filling a slice and dropping what failed

A loop fills the slots of a slice that was made long enough, one item a slot.
An item that reports errors leaves the cursor where it is, so the next item
gets the same slot, whatever is in it now.  In the end the slice is cut at the
cursor.

* `Overwrites`: the outcome of an item does not depend on what its slot held,
  except that a failed item may leave it there.
* `compact_ok`: the slots up to the cursor are then the items that succeed,
  each as it comes out of a fresh slot, and no error is lost.
* `compact_error`: and the loop faults where a fresh slot would make it fault.
-/

namespace GoLib.Compact

variable {F α β ε : Type}

/-- One turn: fill the slot at the cursor, and move on if there was no error. -/
def turn (frame : F) (fill : α → β → Go F (β × List ε)) (acc : List β × Nat × List ε) (x : α) :
    Go F (List β × Nat × List ε) := do
  let slot ← index frame acc.1 acc.2.1
  let (slot, errs) ← fill x slot
  return (acc.1.set acc.2.1 slot, if errs.isEmpty then acc.2.1 + 1 else acc.2.1, acc.2.2 ++ errs)

/-- The outcome of the item is the same from every slot, but for the slot that
a failed item leaves. -/
structure Overwrites (fill : α → β → Go F (β × List ε)) (x : α) : Prop where
  fault : ∀ slot slot' fault, fill x slot = .error fault → fill x slot' = .error fault
  returns : ∀ slot slot' filled errs, fill x slot = .ok (filled, errs) →
    ∃ filled', fill x slot' = .ok (filled', errs) ∧ (errs = [] → filled' = filled)

/-- The results without an error. -/
def complete (results : List (β × List ε)) : List β :=
  (results.filter fun result => result.2.isEmpty).map Prod.fst

@[simp] theorem complete_nil : complete ([] : List (β × List ε)) = [] := rfl

theorem complete_cons_of_nil (filled : β) (results : List (β × List ε)) :
    complete ((filled, []) :: results) = filled :: complete results := rfl

theorem complete_cons_of_ne_nil (filled : β) {errs : List ε} (h : errs ≠ [])
    (results : List (β × List ε)) : complete ((filled, errs) :: results) = complete results := by
  unfold complete
  rw [List.filter_cons_of_neg]
  simpa using h

/-- A turn whose item succeeds in a fresh slot keeps the result. -/
theorem turn_ok {frame : F} {fill : α → β → Go F (β × List ε)} {x : α} (hfill : Overwrites fill x)
    {fresh filled : β} {errs : List ε} (hx : fill x fresh = .ok (filled, errs)) (kept : List β)
    (slot : β) (free : List β) (before : List ε) :
    ∃ slot', turn frame fill (kept ++ slot :: free, kept.length, before) x =
        .ok (kept ++ slot' :: free, if errs.isEmpty then kept.length + 1 else kept.length,
          before ++ errs) ∧ (errs = [] → slot' = filled) := by
  rcases hfill.returns fresh slot filled errs hx with ⟨slot', hslot', hsame⟩
  refine ⟨slot', ?_, hsame⟩
  have hindex : index frame (kept ++ slot :: free) kept.length = .ok slot := by
    apply index_of_getElem?
    simp
  unfold turn
  rw [hindex, ok_bind, hslot', ok_bind]
  simp

/-- The loop over items that all return from a fresh slot. -/
theorem compact_ok (frame : F) {fill : α → β → Go F (β × List ε)} {xs : List α}
    (hfill : ∀ x ∈ xs, Overwrites fill x) {fresh : β} {results : List (β × List ε)}
    (hresults : xs.mapM (fun x => fill x fresh) = .ok results) (kept free : List β)
    (hroom : xs.length ≤ free.length) (before : List ε) :
    ∃ free', xs.foldlM (turn frame fill) (kept ++ free, kept.length, before) =
      .ok (kept ++ complete results ++ free', (kept ++ complete results).length,
        before ++ results.flatMap Prod.snd) := by
  induction xs generalizing kept free before results with
  | nil =>
      cases hresults
      exact ⟨free, by simp⟩
  | cons x xs ih =>
      rw [List.mapM_cons] at hresults
      rcases bind_eq_ok.mp hresults with ⟨⟨filled, errs⟩, hx, hresults⟩
      rcases bind_eq_ok.mp hresults with ⟨rest, hmap, hcons⟩
      cases hcons
      cases free with
      | nil => simp at hroom
      | cons slot free =>
          have hroom' : xs.length ≤ free.length := by simpa using hroom
          have hfill' : ∀ x ∈ xs, Overwrites fill x := fun y hy => hfill y (by simp [hy])
          rcases turn_ok (hfill x (by simp)) hx kept slot free before with
            ⟨slot', hturn, hsame⟩
          rw [List.foldlM_cons, hturn, ok_bind]
          by_cases hnone : errs = []
          · subst hnone
            rcases ih hfill' hmap (kept ++ [slot']) free hroom' (before ++ []) with ⟨free', hloop⟩
            refine ⟨free', ?_⟩
            rw [complete_cons_of_nil, ← hsame rfl]
            simpa using hloop
          · rcases ih hfill' hmap kept (slot' :: free) (by simp; omega) (before ++ errs) with
              ⟨free', hloop⟩
            refine ⟨free', ?_⟩
            rw [complete_cons_of_ne_nil filled hnone, if_neg (by simpa using hnone)]
            simpa using hloop

/-- The loop faults where an item faults in a fresh slot. -/
theorem compact_error (frame : F) {fill : α → β → Go F (β × List ε)} {xs : List α}
    (hfill : ∀ x ∈ xs, Overwrites fill x) {fresh : β} {fault : Fault F}
    (hfault : xs.mapM (fun x => fill x fresh) = .error fault) (kept free : List β)
    (hroom : xs.length ≤ free.length) (before : List ε) :
    xs.foldlM (turn frame fill) (kept ++ free, kept.length, before) = .error fault := by
  induction xs generalizing kept free before with
  | nil => cases hfault
  | cons x xs ih =>
      rw [List.mapM_cons] at hfault
      cases free with
      | nil => simp at hroom
      | cons slot free =>
          have hroom' : xs.length ≤ free.length := by simpa using hroom
          have hfill' : ∀ x ∈ xs, Overwrites fill x := fun y hy => hfill y (by simp [hy])
          rw [List.foldlM_cons]
          cases hx : fill x fresh with
          | error e =>
              rw [hx, error_bind] at hfault
              cases hfault
              have hindex : index frame (kept ++ slot :: free) kept.length = .ok slot := by
                apply index_of_getElem?
                simp
              have hslot := (hfill x (by simp)).fault fresh slot fault hx
              unfold turn
              rw [hindex, ok_bind, hslot, error_bind, error_bind]
          | ok result =>
              rcases result with ⟨filled, errs⟩
              rw [hx, ok_bind] at hfault
              have hrest : xs.mapM (fun x => fill x fresh) = .error fault := by
                rcases bind_eq_error.mp hfault with hrest | ⟨rest, -, hrest⟩
                · exact hrest
                · cases hrest
              rcases turn_ok (hfill x (by simp)) hx kept slot free before with
                ⟨slot', hturn, -⟩
              rw [hturn, ok_bind]
              by_cases hnone : errs = []
              · subst hnone
                have hloop := ih hfill' hrest (kept ++ [slot']) free hroom' (before ++ [])
                simpa using hloop
              · rw [if_neg (by simpa using hnone)]
                exact ih hfill' hrest kept (slot' :: free) (by simp; omega) (before ++ errs)

end GoLib.Compact
