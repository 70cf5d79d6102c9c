import MetricCollector.GoLib.Drain
import MetricCollector.Main

/-!
# The PCIe counters

The sampler adds the PCIe readings of each GPU to `tmprx` and `tmptx`, and after
every collection the main loop copies the counters into `GPU` and sets them back.
Each counter of each GPU is a `Drain`: the copy is its read, and the two
statements between the read and the reset leave room for the sampler.

* `counter_flush` and `counter_sample` are the steps, on the counters.
* `lost_step` is any step of the process.
* `conserved_iff_undisturbed` says in which runs every sample is flushed or waits
  to be.
-/

namespace MetricCollector.Main

open GoLib Schedule Grpcs Storage Gpumpsmetric Nvlink Server

/-! ## The counters -/

/-- In front of this statement, a counter of the GPU has been read and not been
set back. -/
def Statement.pending : Statement → Direction → Bool
  | .read .rx, _ => false
  | .read .tx, d => d = .rx
  | .reset .rx, _ => true
  | .reset .tx, d => d = .tx

/-- The main loop has read a counter and not set it back. -/
def MainLoop.pending (d : Direction) (i : Nat) : MainLoop → Bool
  | .collecting => false
  | .flushing j statement => j = i && statement.pending d

/-- A counter of GPU `i` with its history. -/
def State.counter (s : State) (d : Direction) (i : Nat) : Drain where
  held := ((s.vars.tmp d).getD i 0).toInt
  added := s.sampled d i
  drained := s.flushed d i
  pending := s.main.pending d i

/-- The statement is a read. -/
def Statement.isRead : Statement → Bool
  | .read _ => true
  | .reset _ => false

/-- What a statement of the flush is to its counter. -/
def Statement.drain (c : Drain) : Statement → Drain
  | .read _ => c.read
  | .reset _ => c.reset

@[simp] theorem tmp_setGPU (v : Vars) (i : Nat) (gpu : GrpcGPU) (d : Direction) :
    (v.setGPU i gpu).tmp d = v.tmp d := by
  cases d <;> rfl

theorem tmp_setTmp_self (v : Vars) (d : Direction) {i : Nat} (h : i < (v.tmp d).length)
    (x : Int64) : ((v.setTmp d i x).tmp d).getD i 0 = x := by
  have hset : (v.setTmp d i x).tmp d = (v.tmp d).set i x := by cases d <;> rfl
  rw [hset, List.getD_eq_getElem?_getD, List.getElem?_set_self h, Option.getD_some]

theorem tmp_setTmp_of_ne (v : Vars) {d d' : Direction} {i j : Nat} (h : ¬(d' = d ∧ j = i))
    (x : Int64) : ((v.setTmp d i x).tmp d').getD j 0 = (v.tmp d').getD j 0 := by
  by_cases hd : d' = d
  · subst hd
    have hset : (v.setTmp d' i x).tmp d' = (v.tmp d').set i x := by cases d' <;> rfl
    have hij : i ≠ j := fun hij => h ⟨rfl, hij.symm⟩
    rw [hset, List.getD_eq_getElem?_getD, List.getElem?_set_ne hij, List.getD_eq_getElem?_getD]
  · have hset : (v.setTmp d i x).tmp d' = v.tmp d' := by
      cases d <;> cases d' <;> first | rfl | exact absurd rfl hd
    rw [hset]

theorem grown_self (sums : Direction → Nat → Int) (d : Direction) (i : Nat) (x : Int) :
    grown sums d i x d i = sums d i + x :=
  if_pos ⟨rfl, rfl⟩

theorem grown_of_ne (sums : Direction → Nat → Int) {d d' : Direction} {i j : Nat}
    (h : ¬(d' = d ∧ j = i)) (x : Int) : grown sums d i x d' j = sums d' j :=
  if_neg h

/-! ## The flush -/

/-- In front of the first statement for a GPU no counter is pending. -/
theorem pending_flushFrom (v : Vars) (d : Direction) (i j : Nat) :
    (flushFrom v j).pending d i = false := by
  unfold flushFrom
  split_ifs
  · simp [MainLoop.pending, Statement.pending]
  · rfl

/-- After a statement, its counter is pending if the statement was the read. -/
theorem pending_flushAfter_self (v : Vars) (i : Nat) (statement : Statement) :
    (flushAfter v i statement).pending statement.direction i = statement.isRead := by
  unfold flushAfter
  cases statement with
  | read d => cases d <;> simp [Statement.next, MainLoop.pending, Statement.pending,
      Statement.direction, Statement.isRead]
  | reset d =>
      cases d with
      | rx =>
          simp [Statement.next, MainLoop.pending, Statement.pending, Statement.direction,
            Statement.isRead]
      | tx => exact pending_flushFrom v _ i (i + 1)

/-- The other counters are pending as before. -/
theorem pending_flushAfter_of_ne (v : Vars) {i j : Nat} {d : Direction} {statement : Statement}
    (h : ¬(d = statement.direction ∧ j = i)) :
    (flushAfter v i statement).pending d j = (MainLoop.flushing i statement).pending d j := by
  unfold flushAfter
  cases hnext : statement.next with
  | some following =>
      show (decide (i = j) && following.pending d) = (decide (i = j) && statement.pending d)
      by_cases hj : i = j
      · have hd : d ≠ statement.direction := fun hd => h ⟨hd, hj.symm⟩
        congr 1
        cases statement with
        | read d' => cases d' <;> cases hnext <;> cases d <;> first | rfl | exact absurd rfl hd
        | reset d' => cases d' <;> cases hnext; cases d <;> first | rfl | exact absurd rfl hd
      · rw [decide_eq_false hj, Bool.false_and, Bool.false_and]
  | none =>
      obtain rfl : statement = .reset .tx := by
        cases statement with
        | read d' => cases d' <;> cases hnext
        | reset d' => cases d' <;> first | rfl | cases hnext
      have hother : (decide (i = j) && decide (d = Direction.tx)) = false := by
        rw [← Bool.decide_and, decide_eq_false]
        exact fun hboth => h ⟨hboth.2, hboth.1.symm⟩
      exact (pending_flushFrom v d j (i + 1)).trans hother.symm

/-- In front of a statement, its counter is pending if the statement is the reset. -/
theorem pending_self (i : Nat) (statement : Statement) :
    (MainLoop.flushing i statement).pending statement.direction i = !statement.isRead := by
  cases statement with
  | read d => cases d <;> simp [MainLoop.pending, Statement.pending, Statement.direction,
      Statement.isRead]
  | reset d => cases d <;> simp [MainLoop.pending, Statement.pending, Statement.direction,
      Statement.isRead]

/-- A statement loses nothing of its counter. -/
theorem lost_drain {c : Drain} {statement : Statement} (h : c.pending = !statement.isRead) :
    (statement.drain c).lost = c.lost := by
  cases statement with
  | read d => exact Drain.lost_read h
  | reset d => exact Drain.lost_reset h

/-- A process with the counters, the sums and the pending reads of another one. -/
theorem counter_congr {s t : State} (d : Direction) (i : Nat)
    (htmp : (t.vars.tmp d).getD i 0 = (s.vars.tmp d).getD i 0)
    (hpending : t.main.pending d i = s.main.pending d i)
    (hsampled : t.sampled d i = s.sampled d i) (hflushed : t.flushed d i = s.flushed d i) :
    t.counter d i = s.counter d i := by
  unfold State.counter
  rw [htmp, hpending, hsampled, hflushed]

/-- The counters after a statement of the flush. -/
theorem counter_flush {s : State} {i : Nat} {statement : Statement}
    (hmain : s.main = .flushing i statement) {w : Vars} (hrun : statement.run i s.vars = .ok w)
    (d : Direction) (j : Nat) :
    (s.flush i statement).counter d j =
      if d = statement.direction ∧ j = i then statement.drain (s.counter d j)
      else s.counter d j := by
  obtain ⟨hlt, rfl⟩ := statement.run_eq_ok hrun
  unfold State.flush
  rw [hrun]
  by_cases hsame : d = statement.direction ∧ j = i
  · rw [if_pos hsame]
    obtain ⟨rfl, rfl⟩ := hsame
    have hafter := pending_flushAfter_self (statement.after j s.vars) j statement
    cases statement with
    | read d =>
        show State.counter _ d j = Drain.read _
        unfold State.counter Drain.read
        congr 1
        exact grown_self _ _ _ _
    | reset d =>
        show State.counter _ d j = Drain.reset _
        unfold State.counter Drain.reset
        congr 1
        exact congrArg Int64.toInt (tmp_setTmp_self _ _ hlt 0)
  · rw [if_neg hsame]
    apply counter_congr
    · cases statement with
      | read d' => exact congrArg (List.getD · j 0) (tmp_setGPU _ _ _ _)
      | reset d' => exact tmp_setTmp_of_ne _ hsame 0
    · rw [hmain]
      exact pending_flushAfter_of_ne _ hsame
    · rfl
    · cases statement with
      | read d' => exact grown_of_ne _ hsame _
      | reset d' => rfl

/-- A statement of the flush loses nothing of any counter. -/
theorem lost_flush {s : State} {i : Nat} {statement : Statement}
    (hmain : s.main = .flushing i statement) (d : Direction) (j : Nat) :
    ((s.flush i statement).counter d j).lost = (s.counter d j).lost := by
  cases hrun : statement.run i s.vars with
  | error fault =>
      unfold State.flush
      rw [hrun]
      rfl
  | ok w =>
      rw [counter_flush hmain hrun]
      split_ifs with hsame
      · obtain ⟨rfl, rfl⟩ := hsame
        apply lost_drain
        show s.main.pending _ _ = _
        rw [hmain, pending_self]
      · rfl

/-! ## The sampler -/

/-- The counters after an addition that is in range. -/
theorem counter_sample {s : State} {count i : Nat} {d : Direction} {info : UInt32}
    (hlt : i < (s.vars.tmp d).length) (d' : Direction) (j : Nat) :
    (s.sample count i d info).counter d' j =
      if d' = d ∧ j = i then
        (s.counter d' j).addReading ((s.vars.tmp d).getD i 0) info
      else s.counter d' j := by
  have hrun : Main.sample d i info s.vars = .ok _ := sample_eq_ok.mpr ⟨hlt, rfl⟩
  unfold State.sample
  rw [hrun]
  by_cases hsame : d' = d ∧ j = i
  · rw [if_pos hsame]
    obtain ⟨rfl, rfl⟩ := hsame
    unfold State.counter Drain.addReading Drain.add
    congr 1
    · exact congrArg Int64.toInt (tmp_setTmp_self _ _ hlt _)
    · exact grown_self _ _ _ _
  · rw [if_neg hsame]
    apply counter_congr
    · exact tmp_setTmp_of_ne _ hsame _
    · rfl
    · exact grown_of_ne _ hsame _
    · rfl

/-- An addition behind the end of the counters changes none. -/
theorem counter_sample_of_le {s : State} {count i : Nat} {d : Direction} {info : UInt32}
    (hle : ¬i < (s.vars.tmp d).length) (d' : Direction) (j : Nat) :
    (s.sample count i d info).counter d' j = s.counter d' j := by
  unfold State.sample
  rcases exec_cases s (Main.sample d i info s.vars) _ with ⟨w, hrun, -⟩ | ⟨fault, hrun, hnext⟩
  · exact absurd (sample_eq_ok.mp hrun).1 hle
  · rw [hnext]
    rfl

/-! ## The process -/

/-- The sampler adds a reading that the counter takes: not between the read and
the reset of the counter, or a zero, and a sum that fits. -/
def Undisturbed {Device : Type} (s : State) (event : Event Device) (_ : State) : Prop :=
  match event with
  | .sample info => ∀ count i d, s.sampler = .sampling count i d →
      i < (s.vars.tmp d).length → (s.counter d i).Takes info
  | _ => True

/-- What was flushed and what waits is what was sampled, for every GPU. -/
def Conserved (s : State) : Prop :=
  ∀ d i, s.flushed d i + ((s.vars.tmp d).getD i 0).toInt = s.sampled d i

/-- No counter has lost anything. -/
def Lossless (s : State) : Prop := ∀ d i, (s.counter d i).lost = 0

/-- No counter has been flushed of more than was sampled. -/
def Bounded (s : State) : Prop := ∀ d i, 0 ≤ (s.counter d i).lost

/-- A step that loses nothing of any counter. -/
theorem lossless_of_lost_eq {s t : State} {p : Prop} (hs : Bounded s)
    (h : ∀ d i, (t.counter d i).lost = (s.counter d i).lost) (hp : p) :
    Bounded t ∧ (Lossless t ↔ Lossless s ∧ p) := by
  refine ⟨fun d i => (hs d i).trans_eq (h d i).symm, ?_⟩
  constructor
  · exact fun ht => ⟨fun d i => (h d i).symm.trans (ht d i), hp⟩
  · exact fun hs d i => (h d i).trans (hs.1 d i)

/-- A step that changes what one counter has lost. -/
theorem lossless_of_one {s t : State} {p : Prop} (hs : Bounded s) (d : Direction) (i : Nat)
    (hself : 0 ≤ (t.counter d i).lost ∧ ((t.counter d i).lost = 0 ↔ (s.counter d i).lost = 0 ∧ p))
    (hother : ∀ d' j, ¬(d' = d ∧ j = i) → (t.counter d' j).lost = (s.counter d' j).lost) :
    Bounded t ∧ (Lossless t ↔ Lossless s ∧ p) := by
  constructor
  · intro d' j
    by_cases hsame : d' = d ∧ j = i
    · obtain ⟨rfl, rfl⟩ := hsame
      exact hself.1
    · exact (hs d' j).trans_eq (hother d' j hsame).symm
  · constructor
    · intro ht
      have hboth := hself.2.mp (ht d i)
      refine ⟨fun d' j => ?_, hboth.2⟩
      by_cases hsame : d' = d ∧ j = i
      · obtain ⟨rfl, rfl⟩ := hsame
        exact hboth.1
      · exact (hother d' j hsame).symm.trans (ht d' j)
    · rintro ⟨hlossless, hp⟩ d' j
      by_cases hsame : d' = d ∧ j = i
      · obtain ⟨rfl, rfl⟩ := hsame
        exact hself.2.mpr ⟨hlossless _ _, hp⟩
      · exact (hother d' j hsame).trans (hlossless d' j)

/-- The counter that the condition on an addition is about. -/
theorem undisturbed_sample_iff {Device : Type} {s t : State} {count i : Nat} {d : Direction}
    (hsampler : s.sampler = .sampling count i d) (info : UInt32) :
    Undisturbed s (.sample info : Event Device) t ↔
      (i < (s.vars.tmp d).length → (s.counter d i).Takes info) := by
  constructor
  · exact fun h => h count i d hsampler
  · intro h count' i' d' hsampler'
    rw [hsampler] at hsampler'
    cases hsampler'
    exact h

theorem lost_sample {Device : Type} {s : State} (hs : Bounded s) {count i : Nat} {d : Direction}
    (hsampler : s.sampler = .sampling count i d) (info : UInt32) :
    Bounded (s.sample count i d info) ∧ (Lossless (s.sample count i d info) ↔
      Lossless s ∧ Undisturbed s (.sample info : Event Device) (s.sample count i d info)) := by
  rw [undisturbed_sample_iff hsampler]
  by_cases hlt : i < (s.vars.tmp d).length
  · rw [forall_prop_of_true hlt]
    apply lossless_of_one hs d i
    · rw [counter_sample hlt, if_pos ⟨rfl, rfl⟩]
      exact Drain.lost_addReading rfl (hs d i) info
    · intro d' j hother
      rw [counter_sample hlt, if_neg hother]
  · apply lossless_of_lost_eq hs
    · intro d' j
      rw [counter_sample_of_le hlt]
    · exact fun hlt' => absurd hlt' hlt

/-- What a step loses of the counters. -/
theorem lost_step {Device : Type} {s t : State} {event : Event Device}
    (hstep : step s event = some t) (hs : Bounded s) :
    Bounded t ∧ (Lossless t ↔ Lossless s ∧ Undisturbed s event t) := by
  obtain ⟨hnone, hsteps⟩ := steps_of_step hstep
  cases hsteps with
  | collect readings data hmain =>
      apply lossless_of_lost_eq hs _ trivial
      intro d i
      congr 1
      apply counter_congr
      · cases d <;> rfl
      · rw [hmain]
        exact pending_flushFrom s.vars d i 0
      · rfl
      · rfl
  | flush i statement hmain => exact lossless_of_lost_eq hs (lost_flush hmain) trivial
  | launchSampler init nvml hsampler => exact lossless_of_lost_eq hs (fun _ _ => rfl) trivial
  | sample info count i d hsampler hlt => exact lost_sample hs hsampler info
  | launch k init nvml data hcycle => exact lossless_of_lost_eq hs (fun _ _ => rfl) trivial
  | turn k nvml reading data count i hcycle hlt =>
      apply lossless_of_lost_eq hs _ trivial
      intro d j
      unfold State.turn
      rcases exec_cases s (gpumetricTurn nvml reading data count i s.vars) _ with
        ⟨w, hrun, hnext⟩ | ⟨fault, hrun, hnext⟩
      · obtain ⟨entry, gpu, out, -, -, -, rfl⟩ := gpumetricTurn_eq_ok hrun
        rw [hnext]
        cases d <;> rfl
      · rw [hnext]
        rfl
  | finish k data count i hcycle =>
      exact lossless_of_lost_eq hs (fun d j => by cases d <;> rfl) trivial
  | serve event run hcall hserves =>
      have hundisturbed : Undisturbed s event (s.serve run) := by
        cases event with
        | sample info => cases hcall
        | _ => trivial
      apply lossless_of_lost_eq hs _ hundisturbed
      intro d j
      unfold State.serve
      cases run with
      | ok collector => cases d <;> rfl
      | error fault => rfl

/-- At rest, every sample of every GPU has been flushed or waits to be exactly
when the sampler was never in the way of a flush and no counter overflowed. -/
theorem conserved_iff_undisturbed {Device : Type} {init : Bool} {nvml : Nvml Device}
    {profile : Device → Profile} {name : String} {v : Vars}
    (hstart : startup init nvml profile name = .ok v) {events : List (Event Device)} {s : State}
    (hrun : run step { vars := v } events = some s) (hrest : s.main = .collecting) :
    Conserved s ↔ Along step Undisturbed { vars := v } events := by
  have hzero : ∀ d i, ({ vars := v } : State).counter d i =
      { held := 0, added := 0, drained := 0, pending := false } := by
    intro d i
    obtain ⟨node, -, rfl⟩ := startup_eq_ok hstart
    have htmp : (List.replicate (deviceCount init nvml) (0 : Int64)).getD i 0 = 0 := by
      rw [List.getD_eq_getElem?_getD, List.getElem?_replicate]
      split_ifs <;> rfl
    unfold State.counter
    congr 1
    cases d <;> exact congrArg Int64.toInt htmp
  have hbounded : Bounded { vars := v } := fun d i => by rw [hzero]; exact le_rfl
  have hlossless : Lossless { vars := v } := fun d i => by rw [hzero]; rfl
  have hconserved : Conserved s ↔ Lossless s := by
    have hpending : ∀ d i, (s.counter d i).pending = false := by
      intro d i
      show s.main.pending d i = false
      rw [hrest]
      rfl
    exact forall₂_congr fun d i => (Drain.lost_eq_zero_iff (hpending d i)).symm
  have hstep : ∀ (s : State) (event : Event Device) t, Bounded s → step s event = some t →
      Bounded t ∧ (Lossless t ↔ Lossless s ∧ Undisturbed s event t) :=
    fun s event t hs h => lost_step h hs
  rw [hconserved, run_iff_along Bounded Lossless hstep hbounded hrun]
  exact and_iff_right hlossless

/-- Two readings in front of a flush. -/
theorem conserved_after_quiet_flush :
    ∃ v s, startup true oneGPU (fun _ => {}) "node" = .ok v ∧
      run step { vars := v } [.collect {} {}, .launchSampler true oneGPU, .sample 5, .sample 3,
        .flush, .flush, .flush, .flush] = some s ∧ s.main = .collecting ∧ Conserved s := by
  refine ⟨_, _, rfl, rfl, rfl, ?_⟩
  refine (@conserved_iff_undisturbed Unit true oneGPU (fun _ => {}) "node" _ rfl
    [.collect {} {}, .launchSampler true oneGPU, .sample 5, .sample 3, .flush, .flush, .flush,
      .flush] _ rfl rfl).mpr ?_
  have hfive : (0 : Int) + (5 : UInt32).toNat < 2 ^ 63 := by decide
  have hthree : (0 : Int) + (3 : UInt32).toNat < 2 ^ 63 := by decide
  apply along_cons rfl trivial
  apply along_cons rfl trivial
  apply along_cons rfl (fun count i d hsampler _ => by cases hsampler; exact hfive)
  apply along_cons rfl (fun count i d hsampler _ => by cases hsampler; exact hthree)
  apply along_cons rfl trivial
  apply along_cons rfl trivial
  apply along_cons rfl trivial
  apply along_cons rfl trivial
  trivial

/-- A reading between the read and the reset of its counter is gone. -/
theorem sample_lost_in_flush :
    ∃ v s, startup true oneGPU (fun _ => {}) "node" = .ok v ∧
      run step { vars := v } [.collect {} {}, .launchSampler true oneGPU, .flush, .sample 5,
        .flush, .flush, .flush] = some s ∧ s.main = .collecting ∧ ¬Conserved s := by
  refine ⟨_, _, rfl, rfl, rfl, ?_⟩
  intro h
  have hlost : (0 : Int) + 0 = 0 + 5 := h .rx 0
  exact absurd hlost (by decide)

end MetricCollector.Main
