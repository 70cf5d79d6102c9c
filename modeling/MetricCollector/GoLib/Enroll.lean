import Mathlib.Data.Finset.Card

/-!
# Lists that values are enrolled in

A list to which each value is appended the first time it comes up.  Such a list
has no repetition, keeps its order, and holds what has come up so far.

* `mem_enroll`, `nodup_enroll` and `prefix_enroll` say just that.
* `length_enroll_nil` counts the list, and `length_enroll_eq_iff` says when it is
  as long as the values that came up last.
-/

namespace GoLib

variable {α : Type} [DecidableEq α]

/-- One value. -/
def enrollOne (ids : List α) (x : α) : List α := if x ∈ ids then ids else ids ++ [x]

/-- Several values, in their order. -/
def enroll (ids xs : List α) : List α := xs.foldl enrollOne ids

theorem enrollOne_of_mem {ids : List α} {x : α} (h : x ∈ ids) : enrollOne ids x = ids :=
  if_pos h

theorem enrollOne_of_not_mem {ids : List α} {x : α} (h : x ∉ ids) :
    enrollOne ids x = ids ++ [x] :=
  if_neg h

@[simp] theorem enroll_nil (ids : List α) : enroll ids [] = ids := rfl

@[simp] theorem enroll_cons (ids : List α) (x : α) (xs : List α) :
    enroll ids (x :: xs) = enroll (enrollOne ids x) xs := rfl

theorem enroll_append (ids xs ys : List α) :
    enroll ids (xs ++ ys) = enroll (enroll ids xs) ys :=
  List.foldl_append

theorem mem_enrollOne {ids : List α} {x y : α} : y ∈ enrollOne ids x ↔ y ∈ ids ∨ y = x := by
  by_cases h : x ∈ ids
  · rw [enrollOne_of_mem h]
    constructor
    · exact Or.inl
    · rintro (hy | rfl)
      · exact hy
      · exact h
  · rw [enrollOne_of_not_mem h, List.mem_append, List.mem_singleton]

theorem mem_enroll {ids xs : List α} {y : α} : y ∈ enroll ids xs ↔ y ∈ ids ∨ y ∈ xs := by
  induction xs generalizing ids with
  | nil => simp
  | cons x xs ih => rw [enroll_cons, ih, mem_enrollOne, List.mem_cons, or_assoc]

theorem nodup_enroll {ids : List α} (h : ids.Nodup) (xs : List α) : (enroll ids xs).Nodup := by
  induction xs generalizing ids with
  | nil => exact h
  | cons x xs ih =>
      rw [enroll_cons]
      apply ih
      by_cases hx : x ∈ ids
      · rwa [enrollOne_of_mem hx]
      · rw [enrollOne_of_not_mem hx]
        refine List.nodup_append.mpr ⟨h, List.nodup_singleton x, ?_⟩
        rintro y hy z hz rfl
        exact hx (List.mem_singleton.mp hz ▸ hy)

theorem prefix_enroll (ids xs : List α) : ids <+: enroll ids xs := by
  induction xs generalizing ids with
  | nil => exact List.prefix_refl ids
  | cons x xs ih =>
      have hone : ids <+: enrollOne ids x := by
        by_cases hx : x ∈ ids
        · rw [enrollOne_of_mem hx]
        · rw [enrollOne_of_not_mem hx]
          exact List.prefix_append ids [x]
      exact hone.trans (ih _)

theorem length_enroll_le (ids xs : List α) :
    (enroll ids xs).length ≤ ids.length + xs.length := by
  induction xs generalizing ids with
  | nil => exact Nat.le_refl _
  | cons x xs ih =>
      have hrest := ih (enrollOne ids x)
      have hone : (enrollOne ids x).length ≤ ids.length + 1 := by
        by_cases hx : x ∈ ids
        · rw [enrollOne_of_mem hx]
          omega
        · rw [enrollOne_of_not_mem hx, List.length_append, List.length_singleton]
      rw [enroll_cons, List.length_cons]
      omega

theorem toFinset_enroll_nil (xs : List α) : (enroll [] xs).toFinset = xs.toFinset := by
  ext y
  simp [mem_enroll]

/-- Enrolled from nothing, the list is as long as there are distinct values. -/
theorem length_enroll_nil (xs : List α) : (enroll [] xs).length = xs.toFinset.card := by
  rw [← toFinset_enroll_nil, List.toFinset_card_of_nodup (nodup_enroll List.nodup_nil xs)]

/-- The list is as long as the last values if nothing else is enrolled. -/
theorem length_enroll_eq_iff {ids xs : List α} (hids : ids.Nodup) (hxs : xs.Nodup) :
    (enroll ids xs).length = xs.length ↔ ids ⊆ xs := by
  have hsub : xs.toFinset ⊆ (enroll ids xs).toFinset := by
    intro y hy
    rw [List.mem_toFinset, mem_enroll]
    exact .inr (List.mem_toFinset.mp hy)
  rw [← List.toFinset_card_of_nodup (nodup_enroll hids xs), ← List.toFinset_card_of_nodup hxs]
  constructor
  · intro hcard y hy
    have hsame := Finset.eq_of_subset_of_card_le hsub (Nat.le_of_eq hcard)
    rw [← List.mem_toFinset, hsame, List.mem_toFinset, mem_enroll]
    exact .inl hy
  · intro h
    congr 1
    refine Finset.Subset.antisymm ?_ hsub
    intro y hy
    rw [List.mem_toFinset, mem_enroll] at hy
    rw [List.mem_toFinset]
    rcases hy with hy | hy
    · exact h hy
    · exact hy

end GoLib
