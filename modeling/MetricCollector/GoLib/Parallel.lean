import Mathlib.Algebra.BigOperators.Group.List.Basic
import Mathlib.Algebra.Order.Ring.Nat

/-!
# Parallel arrays filled from an inner loop

A loop over items appends to an array from an inner loop, and the array is
later addressed by the item's index.  What one item appends is a
`Contribution`: some blanks, then its entry if it has one.  The array is
`recorded`, and `place` is where the entry of an item stands in it.

* `recorded_getElem?_iff` says that every entry stands at its place, and that
  nothing but blanks stands elsewhere.
* `recorded_eq_iff` says for which contributions the array is a given one.
* `intended` is the array with one entry for each item.  For it
  `recorded_eq_intended_iff` says more: at every item with an entry, the blanks up
  to it make up for the earlier items without one.
* `recorded_eq_iff_balanced` reduces any array that has an entry wherever an item
  has one to that case.
-/

namespace GoLib.Parallel

variable {α : Type}

/-- What one item appends. -/
structure Contribution (α : Type) where
  blanks : Nat := 0
  entry : Option α := none
deriving DecidableEq, Repr

/-- The entries one item appends, in order. -/
def Contribution.entries (blank : α) (c : Contribution α) : List α :=
  List.replicate c.blanks blank ++ c.entry.toList

/-- The array the loop leaves. -/
def recorded (blank : α) (cs : List (Contribution α)) : List α :=
  cs.flatMap (Contribution.entries blank)

/-- The array with one entry for each item. -/
def intended (blank : α) (cs : List (Contribution α)) : List α :=
  cs.map fun c => c.entry.getD blank

@[simp] theorem recorded_nil (blank : α) : recorded blank [] = [] := rfl

@[simp] theorem recorded_cons (blank : α) (c : Contribution α) (cs : List (Contribution α)) :
    recorded blank (c :: cs) = c.entries blank ++ recorded blank cs := rfl

/-- The blanks of the items up to `k` and of `k` itself. -/
def blanksThrough (cs : List (Contribution α)) (k : Nat) : Nat :=
  ((cs.take (k + 1)).map Contribution.blanks).sum

/-- The entries of the items before `k`. -/
def entriesBefore (cs : List (Contribution α)) (k : Nat) : Nat :=
  ((cs.take k).map fun c => c.entry.toList.length).sum

/-- Where the entry of item `k` stands in the array, if it has one. -/
def place (cs : List (Contribution α)) (k : Nat) : Nat := blanksThrough cs k + entriesBefore cs k

theorem blanksThrough_cons_succ (c : Contribution α) (cs : List (Contribution α)) (k : Nat) :
    blanksThrough (c :: cs) (k + 1) = c.blanks + blanksThrough cs k := by
  simp [blanksThrough]

theorem place_cons_zero (c : Contribution α) (cs : List (Contribution α)) :
    place (c :: cs) 0 = c.blanks := by
  simp [place, blanksThrough, entriesBefore]

theorem place_cons_succ (c : Contribution α) (cs : List (Contribution α)) (k : Nat) :
    place (c :: cs) (k + 1) = c.blanks + c.entry.toList.length + place cs k := by
  simp only [place, blanksThrough_cons_succ, entriesBefore, List.take_succ_cons, List.map_cons,
    List.sum_cons]
  omega

theorem length_entries (blank : α) (c : Contribution α) :
    (c.entries blank).length = c.blanks + c.entry.toList.length := by
  rw [Contribution.entries, List.length_append, List.length_replicate]

theorem length_recorded (blank : α) (cs : List (Contribution α)) :
    (recorded blank cs).length = (cs.map fun c => c.blanks + c.entry.toList.length).sum := by
  rw [recorded, List.length_flatMap]
  exact congrArg List.sum (List.map_congr_left fun c _ => length_entries blank c)

/-- One item appends its entry behind its blanks. -/
theorem entries_getElem?_iff {blank a : α} (ha : a ≠ blank) {c : Contribution α} {i : Nat} :
    (c.entries blank)[i]? = some a ↔ c.entry = some a ∧ i = c.blanks := by
  unfold Contribution.entries
  rcases Nat.lt_trichotomy i c.blanks with hi | hi | hi
  · rw [List.getElem?_append_left (by simpa using hi), List.getElem?_replicate_of_lt hi]
    constructor
    · intro h
      exact absurd (Option.some.inj h).symm ha
    · intro h
      omega
  · rw [List.getElem?_append_right (by simp [hi]), List.length_replicate, hi, Nat.sub_self]
    cases c.entry <;> simp
  · have hpast : (List.replicate c.blanks blank ++ c.entry.toList).length ≤ i := by
      rw [List.length_append, List.length_replicate]
      have : c.entry.toList.length ≤ 1 := by cases c.entry <;> simp
      omega
    rw [List.getElem?_eq_none hpast]
    constructor
    · intro h
      cases h
    · intro h
      omega

/-- The array has the entry of each item at its place, and no other entries. -/
theorem recorded_getElem?_iff {blank a : α} (ha : a ≠ blank) {cs : List (Contribution α)}
    {i : Nat} :
    (recorded blank cs)[i]? = some a ↔
      ∃ (k : Nat) (c : Contribution α), cs[k]? = some c ∧ c.entry = some a ∧ i = place cs k := by
  induction cs generalizing i with
  | nil => simp
  | cons c cs ih =>
      have hlength := length_entries blank c
      rw [recorded_cons]
      by_cases hi : i < (c.entries blank).length
      · -- within what this item appends
        rw [List.getElem?_append_left hi, entries_getElem?_iff ha]
        constructor
        · intro h
          exact ⟨0, c, rfl, h.1, by rw [place_cons_zero, h.2]⟩
        · intro h
          rcases h with ⟨k, c', hc', hentry, hk⟩
          cases k with
          | zero =>
              cases hc'
              exact ⟨hentry, by rw [hk, place_cons_zero]⟩
          | succ k =>
              rw [place_cons_succ] at hk
              omega
      · -- behind it
        obtain ⟨j, rfl⟩ : ∃ j, i = (c.entries blank).length + j :=
          Nat.exists_eq_add_of_le (by omega)
        rw [List.getElem?_append_right (by omega), Nat.add_sub_cancel_left, ih]
        constructor
        · intro h
          rcases h with ⟨k, c', hc', hentry, rfl⟩
          exact ⟨k + 1, c', hc', hentry, by rw [place_cons_succ, hlength]⟩
        · intro h
          rcases h with ⟨k, c', hc', hentry, hk⟩
          cases k with
          | zero =>
              cases hc'
              rw [place_cons_zero, hlength, hentry, Option.toList_some, List.length_singleton] at hk
              omega
          | succ k =>
              rw [place_cons_succ, hlength] at hk
              exact ⟨k, c', hc', hentry, by omega⟩

/-- The items append as much as there is in `t`, and their entries have their places
where `t` has the same. -/
structure Placed (blank : α) (cs : List (Contribution α)) (t : List α) : Prop where
  total : (cs.map fun c => c.blanks + c.entry.toList.length).sum = t.length
  own : ∀ i a, a ≠ blank → (t[i]? = some a ↔
    ∃ (k : Nat) (c : Contribution α), cs[k]? = some c ∧ c.entry = some a ∧ i = place cs k)

/-- Two arrays of one length that have the same entries that are not blank. -/
theorem eq_of_entries {blank : α} {xs ys : List α} (hlength : xs.length = ys.length)
    (h : ∀ (i : Nat) a, a ≠ blank → (xs[i]? = some a ↔ ys[i]? = some a)) : xs = ys := by
  apply List.ext_getElem hlength
  intro i hx hy
  by_cases hblank : xs[i] = blank
  · by_contra hne
    have hother := (h i ys[i] fun hsame => hne (hblank.trans hsame.symm)).mpr
      (List.getElem?_eq_getElem hy)
    rw [List.getElem?_eq_getElem hx] at hother
    exact hne (Option.some.inj hother)
  · have hother := (h i xs[i] hblank).mp (List.getElem?_eq_getElem hx)
    rw [List.getElem?_eq_getElem hy] at hother
    exact (Option.some.inj hother).symm

/-- The loop leaves a given array exactly when the entries have their places in it. -/
theorem recorded_eq_iff {blank : α} {cs : List (Contribution α)} {t : List α} :
    recorded blank cs = t ↔ Placed blank cs t := by
  constructor
  · intro h
    subst h
    exact ⟨(length_recorded blank cs).symm, fun i a ha => recorded_getElem?_iff ha⟩
  · intro h
    exact eq_of_entries ((length_recorded blank cs).trans h.total) fun i a ha =>
      (recorded_getElem?_iff ha).trans (h.own i a ha).symm

/-- The items before `k` that have no entry. -/
def missingBefore (cs : List (Contribution α)) (k : Nat) : Nat :=
  (cs.take k).countP fun c => c.entry.isNone

/-- The blanks stand exactly where an entry is missing, counted from `m` blanks
and `n` missing entries on. -/
def BalancedFrom (blank : α) (m n : Nat) (cs : List (Contribution α)) : Prop :=
  (∀ k c, cs[k]? = some c → c.entry.getD blank ≠ blank →
    m + blanksThrough cs k = n + missingBefore cs k) ∧
  m + (cs.map Contribution.blanks).sum = n + cs.countP fun c => c.entry.isNone

/-- The blanks stand exactly where an entry is missing. -/
def Balanced (blank : α) (cs : List (Contribution α)) : Prop :=
  (∀ k c, cs[k]? = some c → c.entry.getD blank ≠ blank →
    blanksThrough cs k = missingBefore cs k) ∧
  (cs.map Contribution.blanks).sum = cs.countP fun c => c.entry.isNone

/-- As many blanks as missing entries at the start make no difference. -/
theorem balancedFrom_self {blank : α} (m : Nat) {cs : List (Contribution α)} :
    BalancedFrom blank m m cs ↔ Balanced blank cs := by
  simp [BalancedFrom, Balanced]

/-- Going past one item. -/
theorem balancedFrom_cons {blank : α} {m n : Nat} {c : Contribution α}
    {cs : List (Contribution α)} :
    BalancedFrom blank m n (c :: cs) ↔
      (c.entry.getD blank ≠ blank → m + c.blanks = n) ∧
        BalancedFrom blank (m + c.blanks) (n + if c.entry.isNone then 1 else 0) cs := by
  have hmissing : ∀ k, missingBefore (c :: cs) (k + 1) =
      (if c.entry.isNone then 1 else 0) + missingBefore cs k := by
    intro k
    simp only [missingBefore, List.take_succ_cons, List.countP_cons]
    omega
  have htotal : (c :: cs).countP (fun c => c.entry.isNone) =
      (if c.entry.isNone then 1 else 0) + cs.countP fun c => c.entry.isNone := by
    rw [List.countP_cons]
    omega
  unfold BalancedFrom
  rw [htotal, List.map_cons, List.sum_cons]
  constructor
  · intro h
    rcases h with ⟨hitems, hsum⟩
    refine ⟨?_, ?_, by omega⟩
    · intro hc
      have h0 := hitems 0 c rfl hc
      simp only [blanksThrough, missingBefore, List.take_succ_cons, List.take_zero,
        List.map_cons, List.map_nil, List.sum_cons, List.sum_nil, List.countP_nil] at h0
      omega
    · intro k c' hc' hentry
      have hk := hitems (k + 1) c' hc' hentry
      rw [blanksThrough_cons_succ, hmissing] at hk
      omega
  · intro h
    rcases h with ⟨hfirst, hitems, hsum⟩
    refine ⟨?_, by omega⟩
    intro k c' hc' hentry
    cases k with
    | zero =>
        cases hc'
        have h0 := hfirst hentry
        simp only [blanksThrough, missingBefore, List.take_succ_cons, List.take_zero,
          List.map_cons, List.map_nil, List.sum_cons, List.sum_nil, List.countP_nil]
        omega
    | succ k =>
        have hk := hitems k c' hc' hentry
        rw [blanksThrough_cons_succ, hmissing]
        omega

/-- Two arrays agree up to their first entry that is not blank exactly when the
same number of blanks stands before it. -/
theorem replicate_append_cons_eq_iff {blank a : α} (ha : a ≠ blank) (m n : Nat) (xs ys : List α) :
    List.replicate m blank ++ a :: xs = List.replicate n blank ++ a :: ys ↔ m = n ∧ xs = ys := by
  induction m generalizing n with
  | zero =>
      cases n with
      | zero => simp
      | succ n => simp [List.replicate_succ, ha]
  | succ m ih =>
      cases n with
      | zero => simp [List.replicate_succ, ha.symm]
      | succ n => simp [List.replicate_succ, ih]

theorem replicate_append_blank (blank : α) (n : Nat) (xs : List α) :
    List.replicate n blank ++ blank :: xs = List.replicate (n + 1) blank ++ xs := by
  rw [List.replicate_succ', List.append_assoc, List.singleton_append]

/-- The general form, for arrays that already start with `m` and `n` blanks. -/
theorem recorded_eq_intended_iff_from (blank : α) (m n : Nat) (cs : List (Contribution α)) :
    List.replicate m blank ++ recorded blank cs = List.replicate n blank ++ intended blank cs ↔
      BalancedFrom blank m n cs := by
  induction cs generalizing m n with
  | nil =>
      simp [intended, BalancedFrom, List.replicate_inj]
  | cons c cs ih =>
      rw [balancedFrom_cons]
      have hintended : intended blank (c :: cs) = c.entry.getD blank :: intended blank cs := rfl
      have hrecorded : List.replicate m blank ++ recorded blank (c :: cs) =
          List.replicate (m + c.blanks) blank ++ (c.entry.toList ++ recorded blank cs) := by
        rw [recorded_cons, Contribution.entries, List.replicate_add, List.append_assoc,
          List.append_assoc]
      rw [hintended, hrecorded]
      cases hc : c.entry with
      | none =>
          have h := ih (m + c.blanks) (n + 1)
          rw [← replicate_append_blank] at h
          simpa using h
      | some a =>
          by_cases ha : a = blank
          · subst ha
            -- the entry is itself a blank: both sides have one more
            have h := ih (m + c.blanks) n
            simp only [Option.toList_some, Option.getD_some, replicate_append_blank,
              List.replicate_succ, List.cons_append, List.cons.injEq, true_and]
            simpa using h
          · have h := ih 0 0
            rw [balancedFrom_self] at h
            simp only [List.replicate_zero, List.nil_append] at h
            simp only [Option.toList_some, List.singleton_append, Option.getD_some,
              replicate_append_cons_eq_iff ha, h]
            constructor
            · intro hboth
              rcases hboth with ⟨rfl, hbalanced⟩
              exact ⟨fun _ => rfl, (balancedFrom_self _).mpr hbalanced⟩
            · intro hboth
              rcases hboth with ⟨hfirst, hrest⟩
              obtain rfl := hfirst ha
              exact ⟨rfl, (balancedFrom_self _).mp hrest⟩

/-- The loop leaves one entry for each item exactly when its blanks stand
where an entry is missing. -/
theorem recorded_eq_intended_iff (blank : α) (cs : List (Contribution α)) :
    recorded blank cs = intended blank cs ↔ Balanced blank cs := by
  rw [← balancedFrom_self 0, ← recorded_eq_intended_iff_from]
  rfl

/-! ## Arrays with an entry wherever an item has one -/

section Entries

variable [DecidableEq α] {blank : α}

/-- The loop leaves the entries in their order. -/
theorem filter_recorded (cs : List (Contribution α)) :
    (recorded blank cs).filter (· ≠ blank) = (intended blank cs).filter (· ≠ blank) := by
  induction cs with
  | nil => rfl
  | cons c cs ih =>
      have hintended : intended blank (c :: cs) = [c.entry.getD blank] ++ intended blank cs := rfl
      have hblanks : (List.replicate c.blanks blank).filter (· ≠ blank) = [] := by
        rw [List.filter_eq_nil_iff]
        intro a ha
        simp [List.eq_of_mem_replicate ha]
      rw [recorded_cons, Contribution.entries, List.filter_append, List.filter_append, hblanks, ih,
        hintended, List.filter_append, List.nil_append]
      cases c.entry with
      | none => simp
      | some a => rfl

/-- An array with an entry wherever another has one has as many. -/
theorem length_filter_le_of_forall₂ {xs ys : List α}
    (h : List.Forall₂ (fun x y => x ≠ blank → y ≠ blank) xs ys) :
    (xs.filter (· ≠ blank)).length ≤ (ys.filter (· ≠ blank)).length := by
  induction h with
  | nil => exact le_rfl
  | @cons x y xs ys hxy _ ih =>
      simp only [List.filter_cons, decide_eq_true_eq]
      split_ifs with hx hy hy
      · exact Nat.succ_le_succ ih
      · exact absurd (hxy hx) hy
      · exact Nat.le_succ_of_le ih
      · exact ih

/-- Two arrays with the same entries in the same order, of which the second has an
entry wherever the first has one. -/
theorem eq_of_filter_eq {xs ys : List α}
    (h : List.Forall₂ (fun x y => x ≠ blank → y ≠ blank) xs ys)
    (hfilter : xs.filter (· ≠ blank) = ys.filter (· ≠ blank)) : xs = ys := by
  induction h with
  | nil => rfl
  | @cons x y xs ys hxy hrest ih =>
      have hle := length_filter_le_of_forall₂ hrest
      simp only [List.filter_cons, decide_eq_true_eq] at hfilter
      split_ifs at hfilter with hx hy hy
      · obtain ⟨rfl, htail⟩ := List.cons.inj hfilter
        rw [ih htail]
      · exact absurd (hxy hx) hy
      · -- an entry of the second alone would leave the first with fewer
        have hlength := congrArg List.length hfilter
        rw [List.length_cons] at hlength
        omega
      · rw [not_not.mp hx, not_not.mp hy, ih hfilter]

/-- If `t` has an entry wherever an item has one, the loop leaves `t` exactly when these
are the same entries and the blanks stand where an entry is missing. -/
theorem recorded_eq_iff_balanced {cs : List (Contribution α)} {t : List α}
    (h : List.Forall₂ (fun x a => x ≠ blank → a ≠ blank) (intended blank cs) t) :
    recorded blank cs = t ↔ intended blank cs = t ∧ Balanced blank cs := by
  constructor
  · intro hrecorded
    have hintended : intended blank cs = t := by
      apply eq_of_filter_eq h
      rw [← filter_recorded, hrecorded]
    exact ⟨hintended, (recorded_eq_intended_iff blank cs).mp (hrecorded.trans hintended.symm)⟩
  · intro hboth
    rcases hboth with ⟨hintended, hbalanced⟩
    rw [← hintended]
    exact (recorded_eq_intended_iff blank cs).mpr hbalanced

end Entries

end GoLib.Parallel
