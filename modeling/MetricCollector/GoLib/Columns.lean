import Mathlib.Data.List.Sort
import Mathlib.Data.String.Basic

/-!
# Rows whose columns are in key order

A record is written as a set of named fields and read back as a row: the
cells in the order of the field names.  A reader that only sees positions
depends on the rank of each name.

`row fields` is that row.  `row_getElem?` is the one fact a reader needs: the
cell at a position is the field whose name has that rank.  The rank is a fact
about the names alone, so it is decided once for a measurement, whatever the
values.

`sorted fields` are the fields themselves in that order.  `row_perm` says that the order
in which a record was written does not show in its row.
-/

namespace GoLib.Columns

variable {K V : Type} [LinearOrder K]

/-- The field names in ascending order. -/
def sortedKeys (fields : List (K × V)) : List K :=
  (fields.map Prod.fst).insertionSort (· ≤ ·)

/-- The cells of the row, one for each name, in ascending order of the names. -/
def row (fields : List (K × V)) : List (Option V) :=
  (sortedKeys fields).map fun k => fields.lookup k

@[simp] theorem length_row (fields : List (K × V)) : (row fields).length = fields.length := by
  simp [row, sortedKeys]

/-- The cell at the rank of a name is the field of that name. -/
theorem row_getElem? {fields : List (K × V)} {i : Nat} {k : K} {v : V}
    (hrank : (sortedKeys fields)[i]? = some k) (hfield : fields.lookup k = some v) :
    (row fields)[i]? = some (some v) := by
  rw [row, List.getElem?_map, hrank, Option.map_some, hfield]

/-! ## The fields in the order of their names -/

/-- The fields in ascending order of their names. -/
def sorted (fields : List (K × V)) : List (K × V) :=
  (sortedKeys fields).filterMap fun k => (fields.lookup k).map fun v => (k, v)

theorem sortedKeys_perm (fields : List (K × V)) :
    (sortedKeys fields).Perm (fields.map Prod.fst) :=
  List.perm_insertionSort _ _

theorem lookup_of_mem {fields : List (K × V)} (hnodup : (fields.map Prod.fst).Nodup) {k : K} {v : V}
    (hmem : (k, v) ∈ fields) : fields.lookup k = some v := by
  induction fields with
  | nil => cases hmem
  | cons field fields ih =>
      obtain ⟨hnot, hnodup⟩ := List.nodup_cons.mp hnodup
      obtain heq | hmem := List.mem_cons.mp hmem
      · rw [← heq, List.lookup_cons_self]
      · have hne : (k == field.1) = false := by
          rw [beq_eq_false_iff_ne]
          rintro rfl
          exact hnot (List.mem_map.mpr ⟨(field.1, v), hmem, rfl⟩)
        rw [List.lookup_cons, hne]
        exact ih hnodup hmem

/-- With distinct names the order is all that changes. -/
theorem sorted_perm {fields : List (K × V)} (hnodup : (fields.map Prod.fst).Nodup) :
    (sorted fields).Perm fields := by
  have hpick : ∀ field ∈ fields,
      ((fields.lookup field.1).map fun v => (field.1, v)) = some field := by
    intro field hmem
    rw [lookup_of_mem hnodup hmem]
    rfl
  refine ((sortedKeys_perm fields).filterMap _).trans (List.Perm.of_eq ?_)
  rw [List.filterMap_map]
  exact (List.filterMap_congr hpick).trans (List.filterMap_some)

/-- Going over the names in order and looking each of them up. -/
theorem map_sortedKeys {β : Type} (fields : List (K × V)) (f : K → V → β) (d : V) :
    (sortedKeys fields).map (fun k => f k ((fields.lookup k).getD d)) =
      (sorted fields).map fun field => f field.1 field.2 := by
  have hsome : ∀ k ∈ sortedKeys fields,
      some (f k ((fields.lookup k).getD d)) =
        ((fields.lookup k).map fun v => (k, v)).map fun field => f field.1 field.2 := by
    intro k hk
    have hkey : k ∈ fields.map Prod.fst := (sortedKeys_perm fields).mem_iff.mp hk
    obtain ⟨field, hmem, rfl⟩ := List.mem_map.mp hkey
    have hisSome : (fields.lookup field.1).isSome := by
      rw [List.lookup_isSome_iff]
      exact ⟨field, hmem, beq_self_eq_true _⟩
    obtain ⟨v, hv⟩ := Option.isSome_iff_exists.mp hisSome
    rw [hv]
    rfl
  rw [sorted, List.map_filterMap, ← List.filterMap_eq_map]
  exact List.filterMap_congr hsome

theorem pairwise_sorted {fields : List (K × V)} (hnodup : (fields.map Prod.fst).Nodup) :
    (sorted fields).Pairwise fun a b => a.1 < b.1 := by
  have hnodup' : (sortedKeys fields).Nodup := (sortedKeys_perm fields).nodup_iff.mpr hnodup
  have hle : (sortedKeys fields).Pairwise (· ≤ ·) := List.pairwise_insertionSort _ _
  have hlt : (sortedKeys fields).Pairwise (· < ·) :=
    (hle.and hnodup').imp fun h => lt_of_le_of_ne h.1 h.2
  refine List.pairwise_filterMap.mpr (hlt.imp ?_)
  intro a b hab x hx y hy
  obtain ⟨v, -, rfl⟩ := Option.map_eq_some_iff.mp hx
  obtain ⟨w, -, rfl⟩ := Option.map_eq_some_iff.mp hy
  exact hab

/-- Records with the same fields have the same row. -/
theorem row_perm {fields fields' : List (K × V)} (hperm : fields.Perm fields')
    (hnodup : (fields.map Prod.fst).Nodup) : row fields = row fields' := by
  have hkeys : sortedKeys fields = sortedKeys fields' :=
    List.Perm.eq_of_pairwise (fun a b _ _ => le_antisymm)
      (List.pairwise_insertionSort _ _) (List.pairwise_insertionSort _ _)
      ((sortedKeys_perm fields).trans
        ((hperm.map Prod.fst).trans (sortedKeys_perm fields').symm))
  have hnodup' : (fields'.map Prod.fst).Nodup := (hperm.map Prod.fst).nodup_iff.mp hnodup
  unfold row
  rw [hkeys]
  apply List.map_congr_left
  intro k hk
  obtain ⟨⟨k', v⟩, hmem, rfl⟩ := List.mem_map.mp ((sortedKeys_perm fields').mem_iff.mp hk)
  rw [lookup_of_mem hnodup' hmem, lookup_of_mem hnodup (hperm.mem_iff.mpr hmem)]

end GoLib.Columns
