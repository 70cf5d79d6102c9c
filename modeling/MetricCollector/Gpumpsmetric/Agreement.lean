import MetricCollector.Gpumpsmetric.Retry

/-!
# The two counts of a pod list

The retry loop counts the annotation entries of a pod list, and the filling pass
goes over the list that the loop ends with.  Whatever changes between the
attempts, both passes stop at the same pairs of a pod and an entry, and the
snapshot is the one of the attempt that was accepted.

* `attemptOnce_of_agrees` and `attemptOnce_of_not_agrees` are one attempt.
* `gpumpsmetric_agreement` is the whole call.
-/

namespace MetricCollector.Gpumpsmetric

open GoLib Grpcs Storage

/-- The pairs of a pod and an entry of its annotation that names the GPU. -/
def pairs (uuid : String) (items : List Pod) : List (Pod × String) :=
  items.flatMap fun pod => (pod.entries.filter (· = uuid)).map fun entry => (pod, entry)

/-- What the attempts of a call see. -/
structure Seen where
  items : Nat → List Pod
  mps : Nat → Processinfo
  mpscount : Nat → Nat

/-- The number of pairs is the number of processes. -/
def Seen.Agrees (seen : Seen) (uuid : String) (n : Nat) : Prop :=
  (pairs uuid (seen.items n)).length = seen.mpscount n

/-- The first of the twenty attempts at which they are the same. -/
structure Seen.First (seen : Seen) (uuid : String) (n : Nat) : Prop where
  lt : n < 20
  agrees : seen.Agrees uuid n
  before : ∀ m < n, ¬seen.Agrees uuid m

/-- These are the attempts of a call, up to the first that agrees. -/
structure Seen.By (seen : Seen) (uuid : String) (env : Nat → Attempt) : Prop where
  pods : ∀ n < 20, (∀ m < n, ¬seen.Agrees uuid m) →
    (env n).getpodlist = some (seen.items n)
  snapshot : ∀ n < 20, (∀ m < n, ¬seen.Agrees uuid m) →
    getgpuprocess (env n).host (env n).processes = .ok (seen.mps n, seen.mpscount n)
  wellFormed : ∀ n < 20, ∀ pair ∈ pairs uuid (seen.items n), pair.1.WellFormed
  fits : ∀ n < 20, (pairs uuid (seen.items n)).length ≤ 48

/-! ## Pairs -/

/-- Both passes stop at the pods of the pairs. -/
theorem annotated_eq_pairs (uuid : String) (items : List Pod) :
    annotated uuid items = (pairs uuid items).map Prod.fst := by
  unfold annotated pairs
  rw [List.map_flatMap]
  congr 1
  funext pod
  rw [matching_eq_filter, List.map_map]
  rfl

theorem length_annotated_eq (uuid : String) (items : List Pod) :
    (annotated uuid items).length = (pairs uuid items).length := by
  rw [annotated_eq_pairs, List.length_map]

/-- The filling pass writes a slot for each pair. -/
theorem fillPods_pairs {uuid : String} {items : List Pod}
    (hwell : ∀ pair ∈ pairs uuid items, pair.1.WellFormed)
    (hfits : (pairs uuid items).length ≤ 48) :
    fillPods uuid items = .ok ((pairs uuid items).map (fun pair => pair.1.slot) ++
      List.replicate (48 - (pairs uuid items).length) GpuMpsMap.empty,
      (pairs uuid items).length) := by
  have hpods : ∀ pod ∈ annotated uuid items, pod.Readable := by
    intro pod hpod
    rw [annotated_eq_pairs] at hpod
    obtain ⟨pair, hpair, rfl⟩ := List.mem_map.mp hpod
    exact (hwell pair hpair).readable
  rw [fillPods_eq hpods (by rw [length_annotated_eq]; exact hfits), length_annotated_eq,
    annotated_eq_pairs, List.map_map]
  rfl

/-! ## One attempt -/

/-- The pod list that the loop ends with has the pairs of the one it saw. -/
theorem attemptOnce_of_agrees {uuid : String} {attempt : Attempt} {items : List Pod}
    {mps : Processinfo} {mpscount : Nat} (hpods : attempt.getpodlist = some items)
    (hsnapshot : getgpuprocess attempt.host attempt.processes = .ok (mps, mpscount))
    (hagrees : (pairs uuid items).length = mpscount) :
    ∃ runpodlist, attemptOnce uuid attempt = .ok (mps, some runpodlist) ∧
      pairs uuid runpodlist = pairs uuid items := by
  have hcount : (annotated uuid items).length = mpscount :=
    (length_annotated_eq uuid items).trans hagrees
  rw [attemptOnce_eq hpods hsnapshot]
  by_cases hnone : (annotated uuid items).length = 0
  · have hempty : pairs uuid items = [] := by
      rwa [length_annotated_eq, List.length_eq_zero_iff] at hnone
    refine ⟨[], ?_, hempty.symm⟩
    rw [if_neg fun h => h.2 hnone, if_pos ⟨hnone, hcount.symm.trans hnone⟩]
  · exact ⟨items, by rw [if_pos ⟨hcount, hnone⟩], rfl⟩

theorem attemptOnce_of_not_agrees {uuid : String} {attempt : Attempt} {items : List Pod}
    {mps : Processinfo} {mpscount : Nat} (hpods : attempt.getpodlist = some items)
    (hsnapshot : getgpuprocess attempt.host attempt.processes = .ok (mps, mpscount))
    (hagrees : (pairs uuid items).length ≠ mpscount) :
    attemptOnce uuid attempt = .ok (mps, none) := by
  rw [← length_annotated_eq] at hagrees
  rw [attemptOnce_eq hpods hsnapshot, if_neg fun h => hagrees h.1, if_neg]
  rintro ⟨hnone, hidle⟩
  exact hagrees (hnone.trans hidle.symm)

/-! ## The loop -/

/-- Attempts that are rejected leave nothing but their snapshot. -/
theorem retryLoop_append {uuid : String} {before : List Attempt}
    (h : ∀ attempt ∈ before, ∃ mps, attemptOnce uuid attempt = .ok (mps, none))
    (attempts : List Attempt) (mps : Processinfo) :
    ∃ mps', retryLoop uuid (before ++ attempts) mps = retryLoop uuid attempts mps' := by
  induction before generalizing mps with
  | nil => exact ⟨mps, rfl⟩
  | cons attempt before ih =>
      rcases h attempt (by simp) with ⟨mps', hattempt⟩
      rcases ih (fun a ha => h a (by simp [ha])) mps' with ⟨last, hlast⟩
      refine ⟨last, ?_⟩
      rw [List.cons_append, retryLoop, hattempt, ok_bind]
      exact hlast

/-- The first accepted attempt decides. -/
theorem retryLoop_of_first {uuid : String} {before after : List Attempt} {attempt : Attempt}
    {mps : Processinfo} {runpodlist : List Pod}
    (hbefore : ∀ a ∈ before, ∃ mps, attemptOnce uuid a = .ok (mps, none))
    (hattempt : attemptOnce uuid attempt = .ok (mps, some runpodlist)) (start : Processinfo) :
    retryLoop uuid (before ++ attempt :: after) start = .ok (runpodlist, mps) := by
  rcases retryLoop_append hbefore (attempt :: after) start with ⟨mps', hloop⟩
  rw [hloop, retryLoop, hattempt, ok_bind]
  rfl

section Call

variable {uuid : String} {env : Nat → Attempt} {seen : Seen} (h : seen.By uuid env)

include h in
/-- The attempts before the first that agrees are rejected. -/
theorem rejected_of_before {n : Nat} (hn : n ≤ 20) (hbefore : ∀ m < n, ¬seen.Agrees uuid m) :
    ∀ attempt ∈ (List.range n).map env, ∃ mps, attemptOnce uuid attempt = .ok (mps, none) := by
  intro attempt hattempt
  obtain ⟨m, hm, rfl⟩ := List.mem_map.mp hattempt
  have hlt := List.mem_range.mp hm
  have hearlier : ∀ k < m, ¬seen.Agrees uuid k := fun k hk => hbefore k (by omega)
  exact ⟨seen.mps m, attemptOnce_of_not_agrees (h.pods m (by omega) hearlier)
    (h.snapshot m (by omega) hearlier) (hbefore m hlt)⟩

include h in
/-- With a first attempt that agrees, the loop ends with its snapshot and pairs. -/
theorem retryLoop_of_agreement {n : Nat} (hfirst : seen.First uuid n) :
    ∃ runpodlist, retryLoop uuid ((List.range 20).map env) {} = .ok (runpodlist, seen.mps n) ∧
      pairs uuid runpodlist = pairs uuid (seen.items n) := by
  have hlt := hfirst.lt
  have hsplit : (List.range 20).map env =
      (List.range n).map env ++ env n :: (List.range' (n + 1) (19 - n)).map env := by
    have hlength : n + (19 - n + 1) = 20 := by omega
    have hrange : List.range 20 = List.range n ++ n :: List.range' (n + 1) (19 - n) := by
      rw [← hlength, List.range_eq_range', List.range_eq_range', ← List.range'_append_1,
        List.range'_succ, Nat.zero_add]
    rw [hrange, List.map_append, List.map_cons]
  rcases attemptOnce_of_agrees (h.pods n hlt hfirst.before) (h.snapshot n hlt hfirst.before)
    hfirst.agrees with ⟨runpodlist, hattempt, hpairs⟩
  refine ⟨runpodlist, ?_, hpairs⟩
  rw [hsplit]
  exact retryLoop_of_first (rejected_of_before h hlt.le hfirst.before) hattempt {}

include h in
theorem retryLoop_of_no_agreement (hnone : ∀ n < 20, ¬seen.Agrees uuid n) :
    ∃ mps, retryLoop uuid ((List.range 20).map env) {} = .ok ([], mps) := by
  rcases retryLoop_append (rejected_of_before h le_rfl hnone) [] {} with ⟨mps, hloop⟩
  rw [List.append_nil] at hloop
  exact ⟨mps, hloop⟩

end Call

/-- A collection of no pods returns none. -/
theorem collectPods_nil (uuid : String) (data : Collection) (mps : Processinfo)
    (podmap : List PodGPU) (gpu : GrpcGPU) :
    ∃ out, collectPods uuid data [] mps podmap gpu = .ok out ∧ out.podnum = 0 :=
  ⟨_, rfl, rfl⟩

/-- The call goes on with the snapshot of the first attempt that agrees, fills a
slot for each of its pairs, and returns their number; without such an attempt
it returns 0. -/
theorem gpumpsmetric_agreement {uuid : String} {env : Nat → Attempt} {seen : Seen}
    (h : seen.By uuid env) (data : Collection) (podmap : List PodGPU) (gpu : GrpcGPU) :
    (∀ n, seen.First uuid n → ∃ runpodlist,
      gpumpsmetric uuid env data podmap gpu =
        collectPods uuid data runpodlist (seen.mps n) podmap gpu ∧
      fillPods uuid runpodlist =
        .ok ((pairs uuid (seen.items n)).map (fun pair => pair.1.slot) ++
          List.replicate (48 - (pairs uuid (seen.items n)).length) GpuMpsMap.empty,
          (pairs uuid (seen.items n)).length) ∧
      ∀ out, gpumpsmetric uuid env data podmap gpu = .ok out →
        out.podnum = (pairs uuid (seen.items n)).length) ∧
    ((∀ n < 20, ¬seen.Agrees uuid n) →
      ∃ out, gpumpsmetric uuid env data podmap gpu = .ok out ∧ out.podnum = 0) := by
  constructor
  · intro n hfirst
    rcases retryLoop_of_agreement h hfirst with ⟨runpodlist, hloop, hpairs⟩
    have hcall : gpumpsmetric uuid env data podmap gpu =
        collectPods uuid data runpodlist (seen.mps n) podmap gpu := by
      unfold gpumpsmetric
      rw [hloop, ok_bind]
    have hfilled : fillPods uuid runpodlist = _ :=
      fillPods_pairs (by rw [hpairs]; exact h.wellFormed n hfirst.lt)
        (by rw [hpairs]; exact h.fits n hfirst.lt)
    rw [hpairs] at hfilled
    refine ⟨runpodlist, hcall, hfilled, ?_⟩
    intro out hout
    rw [hcall] at hout
    rw [podnum_of_collectPods podmap hout, length_annotated_eq, hpairs]
  · intro hnone
    rcases retryLoop_of_no_agreement h hnone with ⟨mps, hloop⟩
    unfold gpumpsmetric
    rw [hloop, ok_bind]
    exact collectPods_nil uuid data mps podmap gpu

/-- A pod that runs on two GPUs. -/
def latePod : Pod := { runningPod "b" "def" with annotations := [("UUID", "GPU-1,GPU-0")] }

/-- A call whose first attempt sees two processes, but not yet the second pod. -/
def seenLatePod : Seen where
  items n := if n = 0 then [runningPod "a" "abc"] else [runningPod "a" "abc", latePod]
  mps _ := ⟨[⟨1, 10⟩, ⟨2, 20⟩], ["trainer", "python"], ["def", "abc"]⟩
  mpscount _ := 2

/-- Its attempts. -/
def lateAttempts (n : Nat) : Attempt where
  host := crossedHost
  processes := [⟨1, 10⟩, ⟨2, 20⟩]
  replies := [some (seenLatePod.items n)]

theorem pairs_seenLatePod (n : Nat) :
    pairs "GPU-0" (seenLatePod.items n) =
      if n = 0 then [(runningPod "a" "abc", "GPU-0")]
      else [(runningPod "a" "abc", "GPU-0"), (latePod, "GPU-0")] := by
  show pairs "GPU-0" (if n = 0 then _ else _) = _
  split
  · decide
  · decide

theorem seenLatePod_by : seenLatePod.By "GPU-0" lateAttempts := by
  have hsnapshot : getgpuprocess crossedHost [⟨1, 10⟩, ⟨2, 20⟩] =
      .ok (⟨[⟨1, 10⟩, ⟨2, 20⟩], ["trainer", "python"], ["def", "abc"]⟩, 2) := by
    decide
  refine ⟨fun n _ _ => rfl, fun n _ _ => hsnapshot, ?_, ?_⟩
  · intro n _ pair hpair
    have hpod : pair.1 = runningPod "a" "abc" ∨ pair.1 = latePod := by
      rw [pairs_seenLatePod] at hpair
      split at hpair
      · exact Or.inl (congrArg Prod.fst (List.mem_singleton.mp hpair))
      · exact (List.mem_pair.mp hpair).imp (congrArg Prod.fst) (congrArg Prod.fst)
    rcases hpod with hpod | hpod
    · rw [hpod]
      exact runningPod_wellFormed (by decide)
    · rw [hpod]
      exact ⟨List.cons_ne_nil _ _, ⟨_, _, _, rfl, rfl⟩, by decide⟩
  · intro n _
    rw [pairs_seenLatePod]
    split
    · decide
    · decide

/-- Its second attempt is the one, and both pods are counted. -/
theorem gpumpsmetric_agreement_after_retry :
    seenLatePod.First "GPU-0" 1 ∧
      ∃ runpodlist,
        gpumpsmetric "GPU-0" lateAttempts ⟨[{}]⟩ [] {} =
          collectPods "GPU-0" ⟨[{}]⟩ runpodlist (seenLatePod.mps 1) [] {} ∧
        fillPods "GPU-0" runpodlist =
          .ok ((pairs "GPU-0" (seenLatePod.items 1)).map (fun pair => pair.1.slot) ++
            List.replicate (48 - (pairs "GPU-0" (seenLatePod.items 1)).length) GpuMpsMap.empty,
            (pairs "GPU-0" (seenLatePod.items 1)).length) ∧
        pairs "GPU-0" (seenLatePod.items 1) =
          [(runningPod "a" "abc", "GPU-0"), (latePod, "GPU-0")] := by
  have hagrees : seenLatePod.Agrees "GPU-0" 1 := by
    unfold Seen.Agrees
    rw [pairs_seenLatePod]
    rfl
  have hbefore : ∀ m < 1, ¬seenLatePod.Agrees "GPU-0" m := by
    intro m hm
    obtain rfl : m = 0 := by omega
    unfold Seen.Agrees
    rw [pairs_seenLatePod]
    decide
  have hfirst : seenLatePod.First "GPU-0" 1 := ⟨by decide, hagrees, hbefore⟩
  rcases (gpumpsmetric_agreement seenLatePod_by ⟨[{}]⟩ [] {}).1 1 hfirst with
    ⟨runpodlist, hcall, hfilled, -⟩
  exact ⟨hfirst, runpodlist, hcall, hfilled, pairs_seenLatePod 1⟩

end MetricCollector.Gpumpsmetric
