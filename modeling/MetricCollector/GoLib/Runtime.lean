import Mathlib.Logic.Basic

/-!
# Run-time faults of a Go program

A Go function that indexes a slice, follows a pointer or divides integers
either returns or stops the goroutine.  `Go F α` is that outcome: a value, or
a `Fault` that says what went wrong and in which function.  The type `F` names
the functions of the program, so a statement can say which of them faulted.

The rules fall into five groups.

* The partial operations `index`, `indexInt`, `deref` and `divInt64`, with one
  lemma for each way they can end.
* The bind rules, which peel one step of a `do` block off a hypothesis.
* `Raises`, which says which faults a computation can raise, with one rule for
  each way to build one, and `FaultsIn`, its case of the functions they come from.
* The loop rules for `List.foldlM`, which is the `for` loop over a slice.
  `foldlM_inv` carries an invariant over a loop that returned,
  `foldlM_range_succ` takes the last turn off a counting loop, and
  `foldlM_index` turns a loop that reads a list at its counter into a fold.
* The rules for `List.mapM`, which say where a map that returned or faulted did
  so.  `mapM_range_eq_ok` is the map over the positions of a list.
-/

namespace GoLib

variable {F α β σ : Type}

/-- What stops a goroutine. -/
inductive FaultKind where
  | indexOutOfRange
  | nilDereference
  | divideByZero
  /-- `log.Fatal`: the process exits. -/
  | logFatal
  /-- A call of the built-in `panic`. -/
  | explicitPanic
deriving DecidableEq, Repr

/-- A fault and the function whose code raised it. -/
structure Fault (F : Type) where
  kind : FaultKind
  frame : F
deriving DecidableEq, Repr

/-- The outcome of running Go code. -/
abbrev Go (F α : Type) := Except (Fault F) α

/-! ## Bind rules -/

@[simp] theorem pure_eq_ok (a : α) : (pure a : Go F α) = .ok a := rfl

@[simp] theorem ok_bind (a : α) (f : α → Go F β) : (Except.ok a >>= f) = f a := rfl

@[simp] theorem error_bind (e : Fault F) (f : α → Go F β) :
    ((Except.error e : Go F α) >>= f) = .error e := rfl

/-- A block returns when its first step does and the rest returns from there. -/
theorem bind_eq_ok {x : Go F α} {f : α → Go F β} {b : β} :
    (x >>= f) = .ok b ↔ ∃ a, x = .ok a ∧ f a = .ok b := by
  cases x with
  | ok a => simp
  | error e => simp

/-- A block faults when its first step does, or the rest does from there. -/
theorem bind_eq_error {x : Go F α} {f : α → Go F β} {fault : Fault F} :
    (x >>= f) = .error fault ↔ x = .error fault ∨ ∃ a, x = .ok a ∧ f a = .error fault := by
  cases x with
  | ok a => simp
  | error e => simp

/-- What is done with the result of a block is done with the result of its rest. -/
theorem map_bind {γ : Type} (x : Go F α) (f : α → Go F β) (g : β → γ) :
    (x >>= f).map g = x >>= fun a => (f a).map g := by
  cases x with
  | ok a => rfl
  | error e => rfl

/-! ## The partial operations -/

/-- `xs[i]`. -/
def index (frame : F) (xs : List α) (i : Nat) : Go F α :=
  match xs[i]? with
  | some x => .ok x
  | none => .error ⟨.indexOutOfRange, frame⟩

theorem index_of_getElem? {frame : F} {xs : List α} {i : Nat} {x : α}
    (h : xs[i]? = some x) : index frame xs i = .ok x := by
  rw [index, h]

theorem index_of_le {frame : F} {xs : List α} {i : Nat} (h : xs.length ≤ i) :
    index frame xs i = .error ⟨.indexOutOfRange, frame⟩ := by
  rw [index, List.getElem?_eq_none h]

@[simp] theorem index_eq_ok {frame : F} {xs : List α} {i : Nat} {x : α} :
    index frame xs i = .ok x ↔ xs[i]? = some x := by
  rw [index]
  cases xs[i]? with
  | none => simp
  | some y => simp

/-- An index below the length is in range. -/
theorem exists_index_of_lt (frame : F) {xs : List α} {i : Nat} (h : i < xs.length) :
    ∃ x, index frame xs i = .ok x :=
  ⟨xs[i], index_of_getElem? (List.getElem?_eq_getElem h)⟩

/-- `xs[i]` for a signed index. -/
def indexInt (frame : F) (xs : List α) (i : Int) : Go F α :=
  if i < 0 then .error ⟨.indexOutOfRange, frame⟩ else index frame xs i.toNat

theorem indexInt_of_neg {frame : F} {xs : List α} {i : Int} (h : i < 0) :
    indexInt frame xs i = .error ⟨.indexOutOfRange, frame⟩ :=
  if_pos h

/-- `*p` for a pointer that may be `nil`. -/
def deref (frame : F) (p : Option α) : Go F α :=
  match p with
  | some x => .ok x
  | none => .error ⟨.nilDereference, frame⟩

@[simp] theorem deref_some (frame : F) (x : α) : deref frame (some x) = .ok x := rfl

@[simp] theorem deref_none (frame : F) :
    deref frame (none : Option α) = .error ⟨.nilDereference, frame⟩ := rfl

/-- `a / b` on `int64`. -/
def divInt64 (frame : F) (a b : Int64) : Go F Int64 :=
  if b = 0 then .error ⟨.divideByZero, frame⟩ else .ok (a / b)

theorem divInt64_of_ne {frame : F} {a b : Int64} (h : b ≠ 0) :
    divInt64 frame a b = .ok (a / b) :=
  if_neg h

/-! ## Which faults there are -/

/-- Every fault of `x` has the property. -/
def Raises (p : Fault F → Prop) (x : Go F α) : Prop :=
  ∀ fault, x = .error fault → p fault

section Raises

variable {p : Fault F → Prop} {frame : F}

theorem raises_ok (a : α) : Raises p (.ok a : Go F α) := by
  intro fault h
  cases h

theorem raises_error {fault : Fault F} (h : p fault) : Raises p (.error fault : Go F α) := by
  intro fault' h'
  cases h'
  exact h

theorem raises_bind {x : Go F α} {f : α → Go F β} (hx : Raises p x)
    (hf : ∀ a, x = .ok a → Raises p (f a)) : Raises p (x >>= f) := by
  cases x with
  | ok a => exact hf a rfl
  | error fault => exact raises_error (hx fault rfl)

theorem raises_ite {q : Prop} [Decidable q] {x y : Go F α} (hx : Raises p x)
    (hy : Raises p y) : Raises p (if q then x else y) := by
  by_cases hq : q
  · rw [if_pos hq]
    exact hx
  · rw [if_neg hq]
    exact hy

theorem raises_index (hp : p ⟨.indexOutOfRange, frame⟩) (xs : List α) (i : Nat) :
    Raises p (index frame xs i) := by
  unfold index
  cases xs[i]? with
  | some x => exact raises_ok x
  | none => exact raises_error hp

theorem raises_deref (hp : p ⟨.nilDereference, frame⟩) (x : Option α) :
    Raises p (deref frame x) := by
  cases x with
  | some x => exact raises_ok x
  | none => exact raises_error hp

theorem raises_divInt64 (hp : p ⟨.divideByZero, frame⟩) (a b : Int64) :
    Raises p (divInt64 frame a b) :=
  raises_ite (raises_error hp) (raises_ok _)

theorem raises_foldlM {step : σ → α → Go F σ} {xs : List α}
    (hstep : ∀ s, ∀ x ∈ xs, Raises p (step s x)) (s : σ) : Raises p (xs.foldlM step s) := by
  induction xs generalizing s with
  | nil => exact raises_ok s
  | cons x xs ih =>
      rw [List.foldlM_cons]
      refine raises_bind (hstep s x (by simp)) ?_
      intro t _
      exact ih (fun s y hy => hstep s y (by simp [hy])) t

end Raises

/-! ## Where faults come from -/

/-- Every fault of `x` is raised in a frame with the property. -/
def FaultsIn (p : F → Prop) (x : Go F α) : Prop :=
  ∀ fault, x = .error fault → p fault.frame

section FaultsIn

variable {p : F → Prop} {frame : F}

theorem faultsIn_iff_raises {x : Go F α} :
    FaultsIn p x ↔ Raises (fun fault => p fault.frame) x :=
  Iff.rfl

theorem faultsIn_ok (a : α) : FaultsIn p (.ok a : Go F α) :=
  faultsIn_iff_raises.mpr (raises_ok a)

theorem faultsIn_error {fault : Fault F} (h : p fault.frame) :
    FaultsIn p (.error fault : Go F α) :=
  faultsIn_iff_raises.mpr (raises_error h)

theorem faultsIn_bind {x : Go F α} {f : α → Go F β} (hx : FaultsIn p x)
    (hf : ∀ a, FaultsIn p (f a)) : FaultsIn p (x >>= f) :=
  faultsIn_iff_raises.mpr (raises_bind hx fun a _ => hf a)

theorem faultsIn_ite {q : Prop} [Decidable q] {x y : Go F α} (hx : FaultsIn p x)
    (hy : FaultsIn p y) : FaultsIn p (if q then x else y) :=
  faultsIn_iff_raises.mpr (raises_ite hx hy)

theorem faultsIn_index (hp : p frame) (xs : List α) (i : Nat) : FaultsIn p (index frame xs i) :=
  faultsIn_iff_raises.mpr (raises_index hp xs i)

theorem faultsIn_divInt64 (hp : p frame) (a b : Int64) : FaultsIn p (divInt64 frame a b) :=
  faultsIn_iff_raises.mpr (raises_divInt64 hp a b)

theorem faultsIn_foldlM {step : σ → α → Go F σ} {xs : List α}
    (hstep : ∀ s, ∀ x ∈ xs, FaultsIn p (step s x)) (s : σ) : FaultsIn p (xs.foldlM step s) :=
  faultsIn_iff_raises.mpr (raises_foldlM hstep s)

end FaultsIn

/-! ## Loop rules -/

/-- A loop that returned has kept what each iteration keeps, and every element
it went over has what an iteration needs to return. -/
theorem foldlM_inv {step : σ → α → Go F σ} {xs : List α} (Inv : σ → Prop) (P : α → Prop)
    (hstep : ∀ s s', ∀ x ∈ xs, Inv s → step s x = .ok s' → Inv s' ∧ P x)
    {s s' : σ} (hs : Inv s) (hrun : xs.foldlM step s = .ok s') : Inv s' ∧ ∀ x ∈ xs, P x := by
  induction xs generalizing s with
  | nil =>
      rw [List.foldlM_nil, pure_eq_ok] at hrun
      cases hrun
      exact ⟨hs, by simp⟩
  | cons x xs ih =>
      rw [List.foldlM_cons, bind_eq_ok] at hrun
      rcases hrun with ⟨t, ht, hrest⟩
      obtain ⟨hinv, hx⟩ := hstep s t x (by simp) hs ht
      obtain ⟨hinv', hxs⟩ := ih (fun s s' y hy => hstep s s' y (by simp [hy])) hinv hrest
      refine ⟨hinv', ?_⟩
      intro y hy
      rcases List.mem_cons.mp hy with rfl | hy
      · exact hx
      · exact hxs y hy

/-- A loop whose every turn returns is a fold. -/
theorem foldlM_eq_ok {step : σ → α → Go F σ} {next : σ → α → σ} {xs : List α}
    (h : ∀ s, ∀ x ∈ xs, step s x = .ok (next s x)) (s : σ) :
    xs.foldlM step s = .ok (xs.foldl next s) := by
  induction xs generalizing s with
  | nil => rfl
  | cons x xs ih =>
      rw [List.foldlM_cons, h s x (by simp), ok_bind, List.foldl_cons]
      exact ih (fun s y hy => h s y (by simp [hy])) (next s x)

/-- The last turn of a counting loop. -/
theorem foldlM_range_succ (step : σ → Nat → Go F σ) (n : Nat) (s : σ) :
    (List.range (n + 1)).foldlM step s =
      ((List.range n).foldlM step s >>= fun t => step t n) := by
  rw [List.range_succ, List.foldlM_append]
  congr 1
  funext t
  rw [List.foldlM_cons]
  cases step t n with
  | ok t' => rfl
  | error fault => rfl

/-- A counting loop that reads a list at its counter is a fold over the list. -/
theorem foldlM_index (frame : F) (next : σ → α → σ) (xs : List α) (s : σ) :
    (List.range xs.length).foldlM (fun s i => index frame xs i >>= fun x => .ok (next s x)) s =
      .ok (xs.foldl next s) := by
  have hfirst : ∀ n ≤ xs.length,
      (List.range n).foldlM (fun s i => index frame xs i >>= fun x => .ok (next s x)) s =
        .ok ((xs.take n).foldl next s) := by
    intro n hn
    induction n with
    | zero => rfl
    | succ n ih =>
        have hget : index frame xs n = .ok xs[n] := index_of_getElem? (List.getElem?_eq_getElem hn)
        rw [foldlM_range_succ, ih (by omega), ok_bind, hget, ok_bind,
          ← List.take_append_getElem hn, List.foldl_append]
        rfl
  rw [hfirst xs.length (Nat.le_refl _), List.take_length]

/-! ## Mapping a list -/

/-- A map that returned has an image for each element, at the same index. -/
theorem mapM_eq_ok {f : α → Go F β} {xs : List α} {ys : List β} (h : xs.mapM f = .ok ys) :
    ys.length = xs.length ∧
      ∀ (k : Nat) (x : α), xs[k]? = some x → ∃ y, f x = .ok y ∧ ys[k]? = some y := by
  induction xs generalizing ys with
  | nil =>
      rw [List.mapM_nil, pure_eq_ok] at h
      cases h
      exact ⟨rfl, by simp⟩
  | cons x xs ih =>
      rw [List.mapM_cons] at h
      rcases bind_eq_ok.mp h with ⟨y, hy, h⟩
      rcases bind_eq_ok.mp h with ⟨zs, hzs, h⟩
      cases h
      obtain ⟨hlength, hitems⟩ := ih hzs
      refine ⟨by simp [hlength], ?_⟩
      intro k x' hk
      cases k with
      | zero =>
          cases hk
          exact ⟨y, hy, rfl⟩
      | succ k => exact hitems k x' hk

/-- Each of the images comes from one of the elements. -/
theorem exists_of_mem_mapM {f : α → Go F β} {xs : List α} {ys : List β} (h : xs.mapM f = .ok ys)
    {y : β} (hy : y ∈ ys) : ∃ x ∈ xs, f x = .ok y := by
  rcases List.mem_iff_getElem?.mp hy with ⟨k, hk⟩
  have hlength := (mapM_eq_ok h).1
  have hlt : k < xs.length := by
    have := (List.getElem?_eq_some_iff.mp hk).1
    omega
  have hx : xs[k]? = some xs[k] := List.getElem?_eq_getElem hlt
  rcases (mapM_eq_ok h).2 k _ hx with ⟨y', hy', hk'⟩
  rw [hk] at hk'
  cases hk'
  exact ⟨xs[k], List.getElem_mem hlt, hy'⟩

/-- A map that faulted did so at one of its elements. -/
theorem mapM_eq_error {f : α → Go F β} {xs : List α} {fault : Fault F}
    (h : xs.mapM f = .error fault) : ∃ x ∈ xs, f x = .error fault := by
  induction xs with
  | nil => cases h
  | cons x xs ih =>
      rw [List.mapM_cons] at h
      rcases bind_eq_error.mp h with hx | ⟨y, -, h⟩
      · exact ⟨x, by simp, hx⟩
      · rcases bind_eq_error.mp h with hxs | ⟨ys, -, h⟩
        · rcases ih hxs with ⟨x', hx', hfault⟩
          exact ⟨x', by simp [hx'], hfault⟩
        · cases h

/-- A map whose every call returns, returns. -/
theorem exists_mapM_eq_ok {f : α → Go F β} {xs : List α} (h : ∀ x ∈ xs, ∃ y, f x = .ok y) :
    ∃ ys, xs.mapM f = .ok ys := by
  induction xs with
  | nil => exact ⟨[], rfl⟩
  | cons x xs ih =>
      obtain ⟨y, hy⟩ := h x (by simp)
      obtain ⟨ys, hys⟩ := ih fun x' hx' => h x' (by simp [hx'])
      exact ⟨y :: ys, by rw [List.mapM_cons, hy, ok_bind, hys, ok_bind, pure_eq_ok]⟩

/-- A map over the positions of a list that gives the item at each gives the list. -/
theorem mapM_range_eq_ok {f : Nat → Go F β} {ys : List β}
    (h : ∀ (j : Nat) y, ys[j]? = some y → f j = .ok y) :
    (List.range ys.length).mapM f = .ok ys := by
  have hall : ∀ j ∈ List.range ys.length, ∃ y, f j = .ok y := by
    intro j hj
    have hlt := List.mem_range.mp hj
    exact ⟨ys[j], h j ys[j] (List.getElem?_eq_getElem hlt)⟩
  rcases exists_mapM_eq_ok hall with ⟨zs, hzs⟩
  obtain ⟨hlength, hitems⟩ := mapM_eq_ok hzs
  rw [List.length_range] at hlength
  rw [hzs]
  congr 1
  apply List.ext_getElem hlength
  intro j hj hj'
  have hrange : (List.range ys.length)[j]? = some j := List.getElem?_range hj'
  rcases hitems j j hrange with ⟨z, hz, hget⟩
  rw [h j ys[j] (List.getElem?_eq_getElem hj')] at hz
  cases hz
  exact (List.getElem?_eq_some_iff.mp hget).2

end GoLib
