import MetricCollector.GoLib.Enroll
import Mathlib.Algebra.Order.Ring.Nat

/-!
# Values that are accepted at first sight

A pass over a list looks at each value where it comes up first, and accepts it there or
not at all.  `firstSights` lists the values that are accepted, with what they were
accepted as, in the order in which they came up.

* `firstSights_of_mem` and `firstSights_of_not_mem` are one more value.
* `mem_firstSights` says which values are accepted, and `nodup_firstSights` that each is
  listed once.
* `sum_count_le` adds up how often they come up.
-/

namespace GoLib

variable {α β : Type} [DecidableEq α]

/-- The values that `accept` takes at the position where they come up first. -/
def firstSights (accept : Nat → α → Option β) (xs : List α) : List (α × β) :=
  (enroll [] xs).filterMap fun x => (accept (xs.idxOf x) x).map fun b => (x, b)

section

variable {accept : Nat → α → Option β} {xs : List α}

/-- What comes later does not move a first sight. -/
theorem filterMap_idxOf_append (ys : List α) {ids : List α} (hids : ∀ x ∈ ids, x ∈ xs) :
    (ids.filterMap fun x => (accept ((xs ++ ys).idxOf x) x).map fun b => (x, b)) =
      ids.filterMap fun x => (accept (xs.idxOf x) x).map fun b => (x, b) := by
  apply List.filterMap_congr
  intro x hx
  rw [List.idxOf_append_of_mem (hids x hx)]

/-- A value that has come up before. -/
theorem firstSights_of_mem {x : α} (hx : x ∈ xs) :
    firstSights accept (xs ++ [x]) = firstSights accept xs := by
  have hids : ∀ y ∈ enroll [] xs, y ∈ xs := by
    intro y hy
    simpa [mem_enroll] using hy
  have hsame : enroll [] (xs ++ [x]) = enroll [] xs := by
    rw [enroll_append, enroll_cons, enroll_nil]
    exact enrollOne_of_mem (mem_enroll.mpr (Or.inr hx))
  unfold firstSights
  rw [hsame, filterMap_idxOf_append [x] hids]

/-- A new one. -/
theorem firstSights_of_not_mem {x : α} (hx : x ∉ xs) :
    firstSights accept (xs ++ [x]) =
      firstSights accept xs ++ ((accept xs.length x).map fun b => (x, b)).toList := by
  have hids : ∀ y ∈ enroll [] xs, y ∈ xs := by
    intro y hy
    simpa [mem_enroll] using hy
  have hnew : enroll [] (xs ++ [x]) = enroll [] xs ++ [x] := by
    rw [enroll_append, enroll_cons, enroll_nil]
    exact enrollOne_of_not_mem fun hmem => hx (hids x hmem)
  have hidx : (xs ++ [x]).idxOf x = xs.length := by
    rw [List.idxOf_append_of_notMem hx]
    simp
  unfold firstSights
  rw [hnew, List.filterMap_append, filterMap_idxOf_append [x] hids, List.filterMap_cons, hidx]
  cases accept xs.length x with
  | none => rfl
  | some b => rfl

/-- A value is listed if it was accepted at its first sight. -/
theorem mem_firstSights {x : α} {b : β} :
    (x, b) ∈ firstSights accept xs ↔ x ∈ xs ∧ accept (xs.idxOf x) x = some b := by
  unfold firstSights
  rw [List.mem_filterMap]
  constructor
  · intro h
    obtain ⟨y, hy, haccept⟩ := h
    obtain ⟨b', hb', hpair⟩ := Option.map_eq_some_iff.mp haccept
    cases hpair
    exact ⟨by simpa [mem_enroll] using hy, hb'⟩
  · intro h
    exact ⟨x, mem_enroll.mpr (Or.inr h.1), by rw [h.2]; rfl⟩

theorem mem_map_fst_firstSights {x : α} :
    x ∈ (firstSights accept xs).map Prod.fst ↔ x ∈ xs ∧ (accept (xs.idxOf x) x).isSome := by
  rw [List.mem_map]
  constructor
  · intro h
    obtain ⟨⟨y, b⟩, hmem, rfl⟩ := h
    obtain ⟨hy, haccept⟩ := mem_firstSights.mp hmem
    exact ⟨hy, by rw [haccept]; rfl⟩
  · intro h
    obtain ⟨b, hb⟩ := Option.isSome_iff_exists.mp h.2
    exact ⟨(x, b), mem_firstSights.mpr ⟨h.1, hb⟩, rfl⟩

/-- A value that came up and is not listed was refused at some position. -/
theorem exists_refused {x : α} (hx : x ∈ xs) (hkey : x ∉ (firstSights accept xs).map Prod.fst) :
    ∃ i < xs.length, accept i x = none := by
  refine ⟨xs.idxOf x, List.idxOf_lt_length_of_mem hx, ?_⟩
  by_contra hsome
  exact hkey (mem_map_fst_firstSights.mpr ⟨hx, Option.isSome_iff_ne_none.mpr (hsome ·)⟩)

/-- No value is listed twice. -/
theorem nodup_firstSights : ((firstSights accept xs).map Prod.fst).Nodup := by
  have hsub : ((firstSights accept xs).map Prod.fst).Sublist (enroll [] xs) := by
    unfold firstSights
    generalize enroll [] xs = ids
    induction ids with
    | nil => exact List.Sublist.refl []
    | cons x ids ih =>
        rw [List.filterMap_cons]
        cases accept (xs.idxOf x) x with
        | none => exact ih.cons x
        | some b => exact ih.cons_cons x
  exact hsub.nodup (nodup_enroll List.nodup_nil xs)

end

end GoLib

namespace GoLib

variable {α : Type} [BEq α] [LawfulBEq α]

/-- One more value comes up for as many as are equal to it. -/
theorem sum_count_cons (ids : List α) (y : α) (ys : List α) :
    (ids.map fun x => (y :: ys).count x).sum = (ids.map fun x => ys.count x).sum + ids.count y := by
  induction ids with
  | nil => rfl
  | cons x ids ih =>
      rw [List.map_cons, List.sum_cons, ih, List.map_cons, List.sum_cons, List.count_cons,
        List.count_cons, Bool.beq_comm]
      omega

/-- Distinct values do not come up more often than there are values. -/
theorem sum_count_le {ids : List α} (hids : ids.Nodup) (xs : List α) :
    (ids.map fun x => xs.count x).sum ≤ xs.length := by
  induction xs with
  | nil => simp
  | cons y ys ih =>
      have honce := List.nodup_iff_count_le_one.mp hids y
      rw [sum_count_cons, List.length_cons]
      omega

end GoLib
