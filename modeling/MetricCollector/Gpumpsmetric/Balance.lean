import MetricCollector.Gpumpsmetric.Books

/-!
# Assignments and returns

`GPUAssingment` counts the containers that came to a GPU and `GPUReturn` those
that ended on it, so their difference is to be the number of containers that run.
An ended container is counted only if its entry passed a health check, and no
code performs one: `cycle_eq_some` has it that `GPUReturn` never moves.

* `Balanced` is what a cycle should leave and `NoneEnded` what it takes.
* `balanced_of_noneEnded` and `noneEnded_of_balanced` compare them for one cycle.
* `balanced_along_iff` is the result for a run.
-/

namespace MetricCollector.Gpumpsmetric

open GoLib GoLib.Schedule Storage

/-- The counters differ by the number of containers that run, and the containers
on record that no longer run are counted once each. -/
def Balanced (_ : Books) (c : Cycle) (t : Books) : Prop :=
  t.assigned - t.returned = Int64.ofNat c.containers.length ∧
    t.returned = Int64.ofNat ((idsOf t.podmap).countP (· ∉ c.containers))

/-- Every container on record still runs. -/
def NoneEnded (s : Books) (c : Cycle) (_ : Books) : Prop :=
  idsOf s.podmap ⊆ c.containers

/-- No container comes back after a cycle without it. -/
def NeverReused (cycles : List Cycle) : Prop :=
  ∀ (i j k : Nat) (a b c : Cycle), i < j → j < k →
    cycles[i]? = some a → cycles[j]? = some b → cycles[k]? = some c →
    ∀ id ∈ a.containers, id ∈ c.containers → id ∈ b.containers

/-! ## One cycle -/

section Step

variable {uuid : String} {s t : Books} {c : Cycle}

theorem balanced_of_noneEnded (hs : InOrder s) (hreturned : s.returned = 0)
    (hdistinct : c.containers.Nodup) (hstep : cycle uuid s c = some t)
    (h : NoneEnded s c t) : Balanced s c t := by
  obtain ⟨ht, hids, hsame⟩ := cycle_eq_some hs hstep
  have hlength := (length_enroll_eq_iff hs.nodup hdistinct).mpr h
  rw [← hids, length_idsOf] at hlength
  have hended : (idsOf t.podmap).countP (· ∉ c.containers) = 0 := by
    rw [List.countP_eq_zero]
    intro id hid
    rw [hids, mem_enroll] at hid
    have hruns : id ∈ c.containers := by
      rcases hid with hid | hid
      · exact h hid
      · exact hid
    simpa using hruns
  constructor
  · rw [ht.assigned_eq, hsame, hreturned, hlength, Int64.sub_zero]
  · rw [hsame, hreturned, hended]
    rfl

theorem noneEnded_of_balanced (hs : InOrder s) (hreturned : s.returned = 0)
    (hdistinct : c.containers.Nodup) (hstep : cycle uuid s c = some t)
    (hfew : (idsOf s.podmap).length + c.containers.length < 2 ^ 63)
    (h : Balanced s c t) : NoneEnded s c t := by
  obtain ⟨ht, hids, hsame⟩ := cycle_eq_some hs hstep
  have hlength : (idsOf t.podmap).length ≤ (idsOf s.podmap).length + c.containers.length := by
    rw [hids]
    exact length_enroll_le _ _
  have hcount := h.1
  rw [ht.assigned_eq, hsame, hreturned, Int64.sub_zero] at hcount
  have hint := congrArg Int64.toInt hcount
  rw [length_idsOf] at hlength
  rw [Int64.toInt_ofNat_of_lt (by omega), Int64.toInt_ofNat_of_lt (by omega)] at hint
  apply (length_enroll_eq_iff hs.nodup hdistinct).mp
  rw [← hids, length_idsOf]
  exact Int.ofNat_inj.mp hint

end Step

/-! ## A run -/

/-- A run from books in order: while no container ends, every cycle leaves the
counters balanced, and with less than `2 ^ 63` containers only then. -/
theorem balanced_along {uuid : String} {cycles : List Cycle}
    (hdistinct : ∀ c ∈ cycles, c.containers.Nodup) {s : Books} (hs : InOrder s)
    (hreturned : s.returned = 0) :
    (Along (cycle uuid) NoneEnded s cycles → Along (cycle uuid) Balanced s cycles) ∧
      ((idsOf s.podmap).length + (cycles.flatMap Cycle.containers).length < 2 ^ 63 →
        Along (cycle uuid) Balanced s cycles → Along (cycle uuid) NoneEnded s cycles) := by
  induction cycles generalizing s with
  | nil => exact ⟨fun _ => trivial, fun _ _ => trivial⟩
  | cons c cycles ih =>
      have hc := hdistinct c (by simp)
      have hnext : ∀ t, cycle uuid s c = some t → InOrder t ∧ t.returned = 0 ∧
          (idsOf t.podmap).length ≤ (idsOf s.podmap).length + c.containers.length := by
        intro t ht
        obtain ⟨hinOrder, hids, hsame⟩ := cycle_eq_some hs ht
        refine ⟨hinOrder, hsame.trans hreturned, ?_⟩
        rw [hids]
        exact length_enroll_le _ _
      constructor
      · intro h t ht
        obtain ⟨hnone, hrest⟩ := h t ht
        obtain ⟨hinOrder, hzero, -⟩ := hnext t ht
        refine ⟨balanced_of_noneEnded hs hreturned hc ht hnone, ?_⟩
        exact (ih (fun c' hc' => hdistinct c' (by simp [hc'])) hinOrder hzero).1 hrest
      · intro hfew h t ht
        obtain ⟨hbalanced, hrest⟩ := h t ht
        obtain ⟨hinOrder, hzero, hlength⟩ := hnext t ht
        rw [List.flatMap_cons, List.length_append] at hfew
        refine ⟨noneEnded_of_balanced hs hreturned hc ht (by omega) hbalanced, ?_⟩
        exact (ih (fun c' hc' => hdistinct c' (by simp [hc'])) hinOrder hzero).2 (by omega) hrest

/-- From empty books the counters balance in every cycle of a run in which no
container ends; with less than `2 ^ 63` containers, in no other run. -/
theorem balanced_along_iff (uuid : String) (cycles : List Cycle)
    (hdistinct : ∀ c ∈ cycles, c.containers.Nodup) :
    (Along (cycle uuid) NoneEnded {} cycles → Along (cycle uuid) Balanced {} cycles) ∧
      ((cycles.flatMap Cycle.containers).length < 2 ^ 63 →
        Along (cycle uuid) Balanced {} cycles → Along (cycle uuid) NoneEnded {} cycles) := by
  obtain ⟨hif, honlyIf⟩ := balanced_along hdistinct (inOrder_start 0) rfl
  refine ⟨hif, fun hfew => honlyIf ?_⟩
  show 0 + (cycles.flatMap Cycle.containers).length < 2 ^ 63
  omega

/-- A container that runs in both of two cycles. -/
theorem balanced_while_busy : Along (cycle "GPU-0") Balanced {} [busyCycle, busyCycle] := by
  refine (balanced_along_iff "GPU-0" [busyCycle, busyCycle] ?_).1 ?_
  · intro c hc
    have hbusy : c = busyCycle := by simpa using hc
    rw [hbusy]
    exact List.nodup_singleton "abc"
  · intro t ht
    rw [cycle_busyCycle] at ht
    cases ht
    refine ⟨List.nil_subset _, fun u _ => ⟨?_, trivial⟩⟩
    exact List.Subset.refl ["abc"]

/-- A container that has ended is never counted as returned. -/
theorem balanced_fails_when_idle :
    ¬ ∀ (uuid : String) (cycles : List Cycle), (∀ c ∈ cycles, c.containers.Nodup) →
      NeverReused cycles → Along (cycle uuid) Balanced {} cycles := by
  intro hclaim
  have hdistinct : ∀ c ∈ [busyCycle, idleCycle], c.containers.Nodup := by
    intro c hc
    rcases List.mem_cons.mp hc with rfl | hc
    · exact List.nodup_singleton "abc"
    · rw [List.mem_singleton.mp hc]
      exact List.nodup_nil
  have hreused : NeverReused [busyCycle, idleCycle] := by
    intro i j k a b c hij hjk _ _ hk
    have hlt := (List.getElem?_eq_some_iff.mp hk).1
    have hlength : [busyCycle, idleCycle].length = 2 := rfl
    omega
  obtain ⟨-, hrest⟩ := hclaim "GPU-0" [busyCycle, idleCycle] hdistinct hreused _ cycle_busyCycle
  obtain ⟨⟨hcount, -⟩, -⟩ := hrest _ cycle_idleCycle
  revert hcount
  decide

end MetricCollector.Gpumpsmetric
