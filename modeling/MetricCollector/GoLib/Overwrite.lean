import Mathlib.Data.List.Basic

/-!
# Writes over one another

A store keeps named fields under an identity.  A write puts its fields over the ones that
are there under its identity, and leaves everything else.

* `Overwrites` says so of a store that is given by what can be read of it.
* `foldl_put`: of a run of writes under one identity the last one is all that shows, when it
  has every name that the others have.
-/

namespace GoLib.Overwrite

variable {Db P I K V : Type} [BEq K]

/-- The fields of a write win over the ones before it, under its identity and nowhere else. -/
structure Overwrites (put : Db → P → Db) (read : Db → I → K → Option V) (identity : P → I)
    (fields : P → List (K × V)) : Prop where
  own : ∀ db p k, read (put db p) (identity p) k = ((fields p).lookup k).or (read db (identity p) k)
  frame : ∀ db p i, i ≠ identity p → ∀ k, read (put db p) i k = read db i k

/-- Two stores of which the same is read. -/
def Alike (read : Db → I → K → Option V) (db db' : Db) : Prop := ∀ i k, read db i k = read db' i k

section Runs

variable {put : Db → P → Db} {read : Db → I → K → Option V} {identity : P → I}
  {fields : P → List (K × V)}

theorem Overwrites.put_put [LawfulBEq K] (h : Overwrites put read identity fields) {p q : P}
    (hidentity : identity p = identity q)
    (hnames : ∀ k ∈ (fields p).map Prod.fst, k ∈ (fields q).map Prod.fst) (db : Db) :
    Alike read (put (put db p) q) (put db q) := by
  intro i k
  by_cases hi : i = identity q
  · subst hi
    rw [h.own, h.own]
    cases hq : (fields q).lookup k with
    | some v => rfl
    | none =>
        have hp : (fields p).lookup k = none := by
          rw [List.lookup_eq_none_iff] at hq ⊢
          intro f hf
          obtain ⟨g, hg, hkey⟩ := List.mem_map.mp (hnames f.1 (List.mem_map_of_mem hf))
          exact hkey ▸ hq g hg
        rw [← hidentity, h.own, hp]
        rfl
  · rw [h.frame _ _ _ hi, h.frame _ _ _ (hidentity ▸ hi), h.frame _ _ _ hi]

theorem Overwrites.foldl_put [LawfulBEq K] (h : Overwrites put read identity fields) {ps : List P}
    {q : P} (hps : ∀ p ∈ ps, identity p = identity q ∧
      ∀ k ∈ (fields p).map Prod.fst, k ∈ (fields q).map Prod.fst) (db : Db) :
    Alike read ((ps ++ [q]).foldl put db) (put db q) := by
  induction ps generalizing db with
  | nil => exact fun _ _ => rfl
  | cons p ps ih =>
      intro i k
      obtain ⟨hidentity, hnames⟩ := hps p List.mem_cons_self
      have hrest := ih (fun p' hp' => hps p' (List.mem_cons_of_mem p hp')) (put db p)
      exact (hrest i k).trans (h.put_put hidentity hnames db i k)

end Runs

/-- The store that is what is read of it. -/
def update [DecidableEq I] (identity : P → I) (fields : P → List (K × V))
    (db : I → K → Option V) (p : P) : I → K → Option V := fun i k =>
  if i = identity p then ((fields p).lookup k).or (db i k) else db i k

theorem overwrites_update [DecidableEq I] (identity : P → I) (fields : P → List (K × V)) :
    Overwrites (update identity fields) (fun db => db) identity fields where
  own _ _ _ := if_pos rfl
  frame _ _ _ hi _ := if_neg hi

end GoLib.Overwrite
