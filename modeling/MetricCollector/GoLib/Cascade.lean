import Mathlib.Data.List.Nodup

/-!
# Chains of tests

An `if … else if …` chain acts on the first of its tests that holds and does not
look at the others.  `First p x xs` says that `x` is that test.

A chain that acts when the first test with `p` also has `q` is often meant to
act when some test has both.

* `agrees_iff` says when these are the same: the first does not mask another.
* `forall_agrees_iff` says when they are the same whichever of the tests hold:
  those with `q` come first.
-/

namespace GoLib

variable {α : Type}

/-- `x` is the first element of the list with the property. -/
def First (p : α → Prop) (x : α) : List α → Prop
  | [] => False
  | y :: ys => p y ∧ x = y ∨ ¬ p y ∧ First p x ys

section First

variable {p q : α → Prop} {x : α} {xs : List α}

@[simp] theorem not_first_nil : ¬ First p x [] := id

theorem first_cons_of_pos {y : α} {ys : List α} (h : p y) : First p x (y :: ys) ↔ x = y := by
  simp [First, h]

theorem first_cons_of_neg {y : α} {ys : List α} (h : ¬ p y) :
    First p x (y :: ys) ↔ First p x ys := by
  simp [First, h]

theorem First.mem_and_holds (h : First p x xs) : x ∈ xs ∧ p x := by
  induction xs with
  | nil => exact absurd h not_first_nil
  | cons y ys ih =>
      by_cases hy : p y
      · have hx := (first_cons_of_pos hy).mp h
        rw [hx]
        exact ⟨List.mem_cons_self, hy⟩
      · have hrest := ih ((first_cons_of_neg hy).mp h)
        exact ⟨List.mem_cons_of_mem y hrest.1, hrest.2⟩

/-- If an element has the property, there is a first one. -/
theorem exists_first {y : α} (hy : y ∈ xs) (h : p y) : ∃ x, First p x xs := by
  induction xs with
  | nil => cases hy
  | cons z zs ih =>
      by_cases hz : p z
      · exact ⟨z, (first_cons_of_pos hz).mpr rfl⟩
      · have htail : y ∈ zs := by
          rcases List.mem_cons.mp hy with heq | htail
          · exact absurd (heq ▸ h) hz
          · exact htail
        have hfirst := ih htail
        rcases hfirst with ⟨x, hx⟩
        exact ⟨x, (first_cons_of_neg hz).mpr hx⟩

theorem First.unique {y : α} (hx : First p x xs) (hy : First p y xs) : x = y := by
  induction xs with
  | nil => exact absurd hx not_first_nil
  | cons z zs ih =>
      by_cases hz : p z
      · rw [(first_cons_of_pos hz).mp hx, (first_cons_of_pos hz).mp hy]
      · exact ih ((first_cons_of_neg hz).mp hx) ((first_cons_of_neg hz).mp hy)

/-- Whatever else has the property comes later. -/
theorem First.rel {R : α → α → Prop} (hR : xs.Pairwise R) (h : First p x xs) {y : α}
    (hy : y ∈ xs) (hp : p y) : y = x ∨ R x y := by
  induction xs with
  | nil => cases hy
  | cons z zs ih =>
      have hsplit := List.pairwise_cons.mp hR
      by_cases hz : p z
      · rw [(first_cons_of_pos hz).mp h]
        rcases List.mem_cons.mp hy with heq | htail
        · exact .inl heq
        · exact .inr (hsplit.1 y htail)
      · have htail : y ∈ zs := by
          rcases List.mem_cons.mp hy with heq | htail
          · exact absurd (heq ▸ hp) hz
          · exact htail
        exact ih hsplit.2 ((first_cons_of_neg hz).mp h) htail

/-- Properties that agree on the list have the same first element. -/
theorem first_congr {p' : α → Prop} (h : ∀ y ∈ xs, p y ↔ p' y) :
    First p x xs ↔ First p' x xs := by
  induction xs with
  | nil => exact Iff.rfl
  | cons y ys ih =>
      have hy := h y List.mem_cons_self
      have hys := ih fun z hz => h z (List.mem_cons_of_mem y hz)
      simp only [First, hy, hys]

end First

/-! ## Masking -/

/-- The chain acts when some element has both properties. -/
def Agrees (p q : α → Prop) (xs : List α) : Prop :=
  (∃ x, First p x xs ∧ q x) ↔ ∃ y ∈ xs, p y ∧ q y

/-- The first element with `p` does not mask a later one. -/
theorem agrees_iff {p q : α → Prop} {xs : List α} :
    Agrees p q xs ↔ ∀ x, First p x xs → ¬ q x → ∀ y ∈ xs, p y → ¬ q y := by
  constructor
  · intro h x hx hq y hy hp hqy
    have hchain := h.mpr ⟨y, hy, hp, hqy⟩
    rcases hchain with ⟨x', hx', hq'⟩
    rw [hx'.unique hx] at hq'
    exact hq hq'
  · intro h
    constructor
    · intro hchain
      rcases hchain with ⟨x, hx, hq⟩
      have hmem := hx.mem_and_holds
      exact ⟨x, hmem.1, hmem.2, hq⟩
    · intro hsome
      rcases hsome with ⟨y, hy, hp, hq⟩
      have hfirst := exists_first hy hp
      rcases hfirst with ⟨x, hx⟩
      refine ⟨x, hx, ?_⟩
      by_contra hnot
      exact h x hx hnot y hy hp hq

/-- Whichever of the elements that may have `p` do have it, none masks another:
those with `q` come first. -/
theorem forall_agrees_iff {may q : α → Prop} {xs : List α} (hnodup : xs.Nodup) :
    (∀ p : α → Prop, (∀ x, p x → may x) → Agrees p q xs) ↔
      xs.Pairwise fun x y => may x → may y → q y → q x := by
  constructor
  · intro h
    induction xs with
    | nil => exact List.Pairwise.nil
    | cons x xs ih =>
        have hsplit := List.nodup_cons.mp hnodup
        rw [List.pairwise_cons]
        constructor
        · -- exactly `x` and `y` hold
          intro y hy hx hmay hqy
          have hpair : ∀ z, z = x ∨ z = y → may z := by
            rintro z (rfl | rfl)
            · exact hx
            · exact hmay
          have hagrees := agrees_iff.mp (h (fun z => z = x ∨ z = y) hpair) x
            ((first_cons_of_pos (.inl rfl)).mpr rfl)
          by_contra hnot
          exact hagrees hnot y (List.mem_cons_of_mem x hy) (.inr rfl) hqy
        · refine ih hsplit.2 ?_
          intro p hp
          have hne : ∀ y ∈ xs, p y ∧ y ≠ x ↔ p y := by
            intro y hy
            have hyx : y ≠ x := fun heq => hsplit.1 (heq ▸ hy)
            exact and_iff_left hyx
          have hskip : ¬ (p x ∧ x ≠ x) := fun hx => hx.2 rfl
          have hagrees := agrees_iff.mp (h (fun z => p z ∧ z ≠ x) fun z hz => hp z hz.1)
          rw [agrees_iff]
          intro z hz hqz y hy hpy
          have hfirst : First (fun z => p z ∧ z ≠ x) z (x :: xs) :=
            .inr ⟨hskip, (first_congr hne).mpr hz⟩
          exact hagrees z hfirst hqz y (List.mem_cons_of_mem x hy) ((hne y hy).mpr hpy)
  · intro h p hp
    rw [agrees_iff]
    intro x hx hqx y hy hpy hqy
    have hlater := hx.rel h hy hpy
    rcases hlater with heq | hrel
    · exact hqx (heq ▸ hqy)
    · exact hqx (hrel (hp x hx.mem_and_holds.2) (hp y hpy) hqy)

end GoLib
