import MetricCollector.GoLib.Runtime

/-!
# What a computation can return

`Returns q x` says that every value of `x` has the property, and nothing about its
faults, as `Raises` says something about the faults only.  There is one rule for each
way to build a computation, and one for a loop.
-/

namespace GoLib

variable {F α β σ : Type}

/-- Every value of `x` has the property. -/
def Returns (q : α → Prop) (x : Go F α) : Prop := ∀ a, x = .ok a → q a

section Rules

variable {q : α → Prop}

theorem returns_ok {a : α} (h : q a) : Returns q (.ok a : Go F α) := by
  intro a' ha
  cases ha
  exact h

theorem returns_error (fault : Fault F) : Returns q (.error fault : Go F α) := by
  intro a ha
  cases ha

/-- A block returns what its rest returns, from a value of its first step. -/
theorem returns_bind {p : α → Prop} {q : β → Prop} {x : Go F α} {f : α → Go F β}
    (hx : Returns p x) (hf : ∀ a, p a → Returns q (f a)) : Returns q (x >>= f) := by
  intro b hb
  obtain ⟨a, ha, hb⟩ := bind_eq_ok.mp hb
  exact hf a (hx a ha) b hb

/-- The first step may return anything. -/
theorem returns_bind_of_forall {q : β → Prop} {x : Go F α} {f : α → Go F β}
    (hf : ∀ a, x = .ok a → Returns q (f a)) : Returns q (x >>= f) :=
  returns_bind (fun _ ha => ha) hf

/-- A block whose first step returns nothing returns nothing. -/
theorem returns_bind_of_never {q : β → Prop} {x : Go F α} {f : α → Go F β}
    (hx : Returns (fun _ => False) x) : Returns q (x >>= f) :=
  returns_bind hx fun _ hnever => hnever.elim

theorem returns_ite {c : Prop} [Decidable c] {x y : Go F α} (hx : Returns q x)
    (hy : Returns q y) : Returns q (if c then x else y) := by
  by_cases hc : c
  · rw [if_pos hc]
    exact hx
  · rw [if_neg hc]
    exact hy

/-- A division by zero returns nothing. -/
theorem returns_divInt64_zero {q : Int64 → Prop} (frame : F) (a : Int64) :
    Returns q (divInt64 frame a 0) := by
  unfold divInt64
  rw [if_pos rfl]
  exact returns_error _

/-- What each turn keeps holds of what the loop returns. -/
theorem returns_foldlM {Inv : σ → Prop} {step : σ → α → Go F σ} {xs : List α}
    (hstep : ∀ s, Inv s → ∀ x, Returns Inv (step s x)) {s : σ} (hs : Inv s) :
    Returns Inv (xs.foldlM step s) := by
  intro s' hrun
  exact (foldlM_inv Inv (fun _ => True)
    (fun t t' x _ ht hturn => ⟨hstep t ht x t' hturn, trivial⟩) hs hrun).1

end Rules

end GoLib
