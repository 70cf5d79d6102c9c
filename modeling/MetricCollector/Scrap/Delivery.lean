import MetricCollector.Scrap
import Mathlib.Data.List.ReduceOption

/-!
# Nothing is lost or sent twice

The proof is an invariant and what follows from it.

* `Inv` says that what the collector has received and what is still buffered is,
  in some order, what the goroutines have sent, and that the channels are open
  until everything was received.
* `Moves` lists what a step can be under the invariant, and `moves_of_step` is
  the inversion.  None of the moves is a panic.
* `inv_of_moves` is the step lemma, and `exists_step` says that no state before
  the return is stuck.
* `scrap_delivers` is the result about whole runs.
-/

namespace MetricCollector.Scrap

open GoLib Schedule Storage

/-! ## The invariant -/

/-- The batch that a goroutine has sent. -/
def Goroutine.sentBatch (g : Goroutine) : Option (Option MetricsBatch) :=
  match g.phase with
  | .waiting => none
  | .collecting => none
  | .reporting => some g.result.metrics
  | .finished => some g.result.metrics

/-- The error that it has sent. -/
def Goroutine.sentErr (g : Goroutine) : Option (Option ScrapError) :=
  match g.phase with
  | .finished => some g.result.wrapped
  | _ => none

/-- How many batches the collector has received, of `n`. -/
def Main.batches (n : Nat) : Main → Nat
  | .start _ => 0
  | .turn i => i
  | .paired i _ => i
  | _ => n

/-- And how many errors. -/
def Main.errors (n : Nat) : Main → Nat
  | .start _ => 0
  | .turn i => i
  | .paired i _ => i + 1
  | _ => n

/-- An error that was received and not yet looked at. -/
def Main.held : Main → List ScrapError
  | .paired _ err => err.toList
  | _ => []

/-- The `go` statements up to this node have run. -/
def Main.started (n : Nat) : Main → Nat
  | .start next => next
  | _ => n

/-- The error channel is closed first. -/
def Main.errClosed : Main → Bool
  | .closeResponse => true
  | .returned => true
  | _ => false

def Main.responseClosed : Main → Bool
  | .returned => true
  | _ => false

/-- What holds in every reachable state, with what the collector has received
so far, the `nil`s included. -/
structure Inv (results : List Result) (batches : List (Option MetricsBatch))
    (errors : List (Option ScrapError)) (s : State) : Prop where
  calm : s.panicked = false
  own : s.goroutines.map Goroutine.result = results
  responseCapacity : s.responseChannel.capacity = results.length
  errCapacity : s.errChannel.capacity = results.length
  responseClosed : s.responseChannel.closed = s.main.responseClosed
  errClosed : s.errChannel.closed = s.main.errClosed
  startedLe : s.main.started results.length ≤ results.length
  waiting : ∀ k g, s.goroutines[k]? = some g →
    (g.phase = .waiting ↔ s.main.started results.length ≤ k)
  batchesLe : s.main.batches results.length ≤ results.length
  batchesLength : batches.length = s.main.batches results.length
  errorsLe : s.main.errors results.length ≤ results.length
  errorsLength : errors.length = s.main.errors results.length
  sentBatches : (batches ++ s.responseChannel.buffer).Perm
    (s.goroutines.filterMap Goroutine.sentBatch)
  sentErrs : (errors ++ s.errChannel.buffer).Perm (s.goroutines.filterMap Goroutine.sentErr)
  metricsbatchs : s.metricsbatchs = batches.reduceOption
  errs : s.errs ++ s.main.held = errors.reduceOption

theorem inv_start (results : List Result) : Inv results [] [] (start results) where
  calm := rfl
  own := by
    show (results.map _).map _ = results
    rw [List.map_map]
    exact List.map_id results
  responseCapacity := rfl
  errCapacity := rfl
  responseClosed := rfl
  errClosed := rfl
  startedLe := Nat.zero_le _
  waiting k g hg := by
    have hphase : g.phase = .waiting := by
      rcases List.mem_map.mp (List.mem_of_getElem? hg) with ⟨result, -, rfl⟩
      rfl
    exact iff_of_true hphase (Nat.zero_le k)
  batchesLe := Nat.zero_le _
  batchesLength := rfl
  errorsLe := Nat.zero_le _
  errorsLength := rfl
  sentBatches := by
    have hnone : (start results).goroutines.filterMap Goroutine.sentBatch = [] := by
      show (results.map _).filterMap _ = []
      rw [List.filterMap_map]
      exact List.filterMap_eq_nil_iff.mpr fun _ _ => rfl
    rw [hnone]
    exact List.Perm.refl _
  sentErrs := by
    have hnone : (start results).goroutines.filterMap Goroutine.sentErr = [] := by
      show (results.map _).filterMap _ = []
      rw [List.filterMap_map]
      exact List.filterMap_eq_nil_iff.mpr fun _ _ => rfl
    rw [hnone]
    exact List.Perm.refl _
  metricsbatchs := rfl
  errs := rfl

section Counts

variable {results : List Result} {batches : List (Option MetricsBatch)}
  {errors : List (Option ScrapError)} {s : State}

theorem Inv.length_goroutines (h : Inv results batches errors s) :
    s.goroutines.length = results.length := by
  rw [← h.own, List.length_map]

/-- The batches sent are those received and those in the channel. -/
theorem Inv.countP_sentBatch (h : Inv results batches errors s) :
    s.goroutines.countP (fun g => g.sentBatch.isSome) =
      s.main.batches results.length + s.responseChannel.buffer.length := by
  rw [← List.length_filterMap_eq_countP, ← h.sentBatches.length_eq, List.length_append,
    h.batchesLength]

theorem Inv.countP_sentErr (h : Inv results batches errors s) :
    s.goroutines.countP (fun g => g.sentErr.isSome) =
      s.main.errors results.length + s.errChannel.buffer.length := by
  rw [← List.length_filterMap_eq_countP, ← h.sentErrs.length_eq, List.length_append,
    h.errorsLength]

/-- A goroutine that has not sent its batch leaves room for it. -/
theorem Inv.batch_room (h : Inv results batches errors s) {i : Nat} {g : Goroutine}
    (hg : s.goroutines[i]? = some g) (hunsent : g.sentBatch = none) :
    s.responseChannel.buffer.length < s.responseChannel.capacity ∧
      s.responseChannel.closed = false := by
  have hlt : s.goroutines.countP (fun g => g.sentBatch.isSome) < s.goroutines.length := by
    apply Nat.lt_of_le_of_ne List.countP_le_length
    intro hall
    have hsent := List.countP_eq_length.mp hall g (List.mem_of_getElem? hg)
    rw [hunsent] at hsent
    cases hsent
  have hcount := h.countP_sentBatch
  have hlength := h.length_goroutines
  have hcapacity := h.responseCapacity
  refine ⟨by omega, ?_⟩
  rw [h.responseClosed]
  cases hmain : s.main with
  | returned =>
      rw [hmain] at hcount
      simp only [Main.batches] at hcount
      omega
  | _ => rfl

/-- And so does one that has not sent its error. -/
theorem Inv.err_room (h : Inv results batches errors s) {i : Nat} {g : Goroutine}
    (hg : s.goroutines[i]? = some g) (hunsent : g.sentErr = none) :
    s.errChannel.buffer.length < s.errChannel.capacity ∧ s.errChannel.closed = false := by
  have hlt : s.goroutines.countP (fun g => g.sentErr.isSome) < s.goroutines.length := by
    apply Nat.lt_of_le_of_ne List.countP_le_length
    intro hall
    have hsent := List.countP_eq_length.mp hall g (List.mem_of_getElem? hg)
    rw [hunsent] at hsent
    cases hsent
  have hcount := h.countP_sentErr
  have hlength := h.length_goroutines
  have hcapacity := h.errCapacity
  refine ⟨by omega, ?_⟩
  rw [h.errClosed]
  cases hmain : s.main with
  | closeResponse =>
      rw [hmain] at hcount
      simp only [Main.errors] at hcount
      omega
  | returned =>
      rw [hmain] at hcount
      simp only [Main.errors] at hcount
      omega
  | _ => rfl

end Counts

/-! ## What a step can be -/

/-- The steps, where nothing panics. -/
inductive Moves (s : State) : Event → State → Prop where
  | spawn {next : Nat} {g : Goroutine} (hmain : s.main = .start next)
      (hg : s.goroutines[next]? = some g) :
      Moves s .main { s with
        goroutines := s.goroutines.set next { g with phase := .collecting }
        main := .start (next + 1) }
  | spawned {next : Nat} (hmain : s.main = .start next) (hg : s.goroutines[next]? = none) :
      Moves s .main { s with main := .turn 0 }
  | recvErr {i : Nat} {err : Option ScrapError} {rest : List (Option ScrapError)}
      (hmain : s.main = .turn i) (hi : i < s.goroutines.length)
      (hbuffer : s.errChannel.buffer = err :: rest) :
      Moves s .main { s with
        errChannel := { s.errChannel with buffer := rest }
        main := .paired i err }
  | collected {i : Nat} (hmain : s.main = .turn i) (hi : ¬i < s.goroutines.length) :
      Moves s .main { s with main := .closeErr }
  | recvBatch {i : Nat} {err : Option ScrapError} {srcBatch : Option MetricsBatch}
      {rest : List (Option MetricsBatch)} (hmain : s.main = .paired i err)
      (hbuffer : s.responseChannel.buffer = srcBatch :: rest) :
      Moves s .main { s with
        responseChannel := { s.responseChannel with buffer := rest }
        errs := s.errs ++ err.toList
        metricsbatchs := s.metricsbatchs ++ srcBatch.toList
        main := .turn (i + 1) }
  | closeErr (hmain : s.main = .closeErr) :
      Moves s .main { s with
        errChannel := { s.errChannel with closed := true }
        main := .closeResponse }
  | closeResponse (hmain : s.main = .closeResponse) :
      Moves s .main { s with
        responseChannel := { s.responseChannel with closed := true }
        main := .returned }
  | sendBatch {i : Nat} {g : Goroutine} (hg : s.goroutines[i]? = some g)
      (hphase : g.phase = .collecting) :
      Moves s (.goroutine i) { s with
        responseChannel := { s.responseChannel with
          buffer := s.responseChannel.buffer ++ [g.result.metrics] }
        goroutines := s.goroutines.set i { g with phase := .reporting } }
  | sendErr {i : Nat} {g : Goroutine} (hg : s.goroutines[i]? = some g)
      (hphase : g.phase = .reporting) :
      Moves s (.goroutine i) { s with
        errChannel := { s.errChannel with buffer := s.errChannel.buffer ++ [g.result.wrapped] }
        goroutines := s.goroutines.set i { g with phase := .finished } }

section Steps

variable {results : List Result} {batches : List (Option MetricsBatch)}
  {errors : List (Option ScrapError)} {s t : State}

/-- The function itself does not panic: it receives from open channels and
closes each of them once. -/
theorem moves_of_mainStep (h : Inv results batches errors s) (ht : mainStep s = some t) :
    Moves s .main t := by
  have herrClosed := h.errClosed
  have hresponseClosed := h.responseClosed
  unfold mainStep at ht
  cases hmain : s.main with
  | start next =>
      simp only [hmain] at ht
      cases hg : s.goroutines[next]? with
      | some g =>
          simp only [hg] at ht
          cases ht
          exact Moves.spawn hmain hg
      | none =>
          simp only [hg] at ht
          cases ht
          exact Moves.spawned hmain hg
  | turn i =>
      simp only [hmain] at ht
      by_cases hi : i < s.goroutines.length
      · rw [if_pos hi] at ht
        rw [hmain] at herrClosed
        rcases @Chan.receive_of_open _ _ herrClosed none with ⟨-, hblocked⟩ | ⟨err, rest, hbuffer, hdone⟩
        · rw [hblocked] at ht
          cases ht
        · rw [hdone] at ht
          cases ht
          exact Moves.recvErr hmain hi hbuffer
      · rw [if_neg hi] at ht
        cases ht
        exact Moves.collected hmain hi
  | paired i err =>
      simp only [hmain] at ht
      rw [hmain] at hresponseClosed
      rcases @Chan.receive_of_open _ _ hresponseClosed none with
        ⟨-, hblocked⟩ | ⟨srcBatch, rest, hbuffer, hdone⟩
      · rw [hblocked] at ht
        cases ht
      · rw [hdone] at ht
        cases ht
        exact Moves.recvBatch hmain hbuffer
  | closeErr =>
      simp only [hmain] at ht
      rw [hmain] at herrClosed
      rw [Chan.close_of_open herrClosed] at ht
      cases ht
      exact Moves.closeErr hmain
  | closeResponse =>
      simp only [hmain] at ht
      rw [hmain] at hresponseClosed
      rw [Chan.close_of_open hresponseClosed] at ht
      cases ht
      exact Moves.closeResponse hmain
  | returned =>
      simp only [hmain] at ht
      cases ht

/-- No goroutine sends on a closed channel, or waits for room in one. -/
theorem goroutineStep_eq (h : Inv results batches errors s) {i : Nat} {g : Goroutine}
    (hg : s.goroutines[i]? = some g) :
    (g.phase = .collecting → goroutineStep s i g = some { s with
      responseChannel := { s.responseChannel with
        buffer := s.responseChannel.buffer ++ [g.result.metrics] }
      goroutines := s.goroutines.set i { g with phase := .reporting } }) ∧
    (g.phase = .reporting → goroutineStep s i g = some { s with
      errChannel := { s.errChannel with buffer := s.errChannel.buffer ++ [g.result.wrapped] }
      goroutines := s.goroutines.set i { g with phase := .finished } }) := by
  constructor
  · intro hphase
    have hunsent : g.sentBatch = none := by rw [Goroutine.sentBatch, hphase]
    rcases h.batch_room hg hunsent with ⟨hroom, hopen⟩
    unfold goroutineStep
    simp only [hphase]
    rw [Chan.send_of_room hopen hroom]
  · intro hphase
    have hunsent : g.sentErr = none := by rw [Goroutine.sentErr, hphase]
    rcases h.err_room hg hunsent with ⟨hroom, hopen⟩
    unfold goroutineStep
    simp only [hphase]
    rw [Chan.send_of_room hopen hroom]

/-- What a step can be. -/
theorem moves_of_step (h : Inv results batches errors s) {event : Event}
    (ht : step s event = some t) : Moves s event t := by
  unfold step at ht
  rw [h.calm, if_neg Bool.false_ne_true] at ht
  cases event with
  | main => exact moves_of_mainStep h ht
  | goroutine i =>
      cases hg : s.goroutines[i]? with
      | none =>
          simp only [hg] at ht
          cases ht
      | some g =>
          simp only [hg] at ht
          have hsend := goroutineStep_eq h hg
          cases hphase : g.phase with
          | waiting =>
              rw [goroutineStep, hphase] at ht
              cases ht
          | collecting =>
              rw [hsend.1 hphase] at ht
              cases ht
              exact Moves.sendBatch hg hphase
          | reporting =>
              rw [hsend.2 hphase] at ht
              cases ht
              exact Moves.sendErr hg hphase
          | finished =>
              rw [goroutineStep, hphase] at ht
              cases ht

/-! ## What a step keeps -/

/-- A goroutine that moves keeps its results. -/
theorem map_result_set {gs : List Goroutine} {i : Nat} {g : Goroutine} (hg : gs[i]? = some g)
    (phase : Phase) :
    (gs.set i { g with phase := phase }).map Goroutine.result = gs.map Goroutine.result := by
  have hsame := @filterMap_set_of_eq _ _ (fun g : Goroutine => some g.result) gs i g
    { g with phase := phase } hg rfl
  rwa [List.filterMap_eq_map'] at hsame

/-- And one that was started stays so. -/
theorem waiting_set {gs : List Goroutine} {i started : Nat} {g : Goroutine}
    (hwaiting : ∀ k g, gs[k]? = some g → (g.phase = .waiting ↔ started ≤ k))
    (hg : gs[i]? = some g) (hphase : g.phase ≠ .waiting) {phase : Phase} (hphase' : phase ≠ .waiting) :
    ∀ k g', (gs.set i { g with phase := phase })[k]? = some g' →
      (g'.phase = .waiting ↔ started ≤ k) := by
  intro k g' hg'
  rw [List.getElem?_set] at hg'
  by_cases hk : i = k
  · rw [if_pos hk] at hg'
    have hlt := (List.getElem?_eq_some_iff.mp hg).1
    rw [if_pos (by omega)] at hg'
    cases hg'
    have hstarted := hwaiting i g hg
    rw [← hk]
    exact iff_of_false hphase' (fun hle => hphase (hstarted.mpr hle))
  · rw [if_neg hk] at hg'
    exact hwaiting k g' hg'

/-- The one that is started now waits no longer. -/
theorem waiting_spawn {gs : List Goroutine} {next : Nat} {g : Goroutine}
    (hwaiting : ∀ k g, gs[k]? = some g → (g.phase = .waiting ↔ next ≤ k))
    (hg : gs[next]? = some g) {phase : Phase} (hphase : phase ≠ .waiting) :
    ∀ k g', (gs.set next { g with phase := phase })[k]? = some g' →
      (g'.phase = .waiting ↔ next + 1 ≤ k) := by
  intro k g' hg'
  rw [List.getElem?_set] at hg'
  by_cases hk : next = k
  · rw [if_pos hk] at hg'
    have hlt := (List.getElem?_eq_some_iff.mp hg).1
    rw [if_pos (by omega)] at hg'
    cases hg'
    exact iff_of_false hphase (by omega)
  · rw [if_neg hk] at hg'
    rw [hwaiting k g' hg']
    omega

/-- The sum of what was received and what is buffered grows with what was sent. -/
theorem perm_send {β : Type} {received buffer : List β} {gs : List Goroutine}
    {sent : Goroutine → Option β} (hperm : (received ++ buffer).Perm (gs.filterMap sent)) {i : Nat}
    {g g' : Goroutine} (hg : gs[i]? = some g) (hunsent : sent g = none) {x : β}
    (hsent : sent g' = some x) :
    (received ++ (buffer ++ [x])).Perm ((gs.set i g').filterMap sent) := by
  have hmoved := filterMap_set_of_none hg hunsent g'
  rw [hsent] at hmoved
  rw [← List.append_assoc]
  exact ((hperm.append_right _).trans List.perm_append_comm).trans hmoved.symm

theorem Inv.spawn (h : Inv results batches errors s) {next : Nat} {g : Goroutine}
    (hmain : s.main = .start next) (hg : s.goroutines[next]? = some g) :
    Inv results batches errors { s with
      goroutines := s.goroutines.set next { g with phase := .collecting }
      main := .start (next + 1) } := by
  have hlength := h.length_goroutines
  have hlt := (List.getElem?_eq_some_iff.mp hg).1
  have hwaiting := h.waiting
  have hsentBatches := h.sentBatches
  have hsentErrs := h.sentErrs
  obtain ⟨goroutines, responseChannel, errChannel, main, errs, metricsbatchs, panicked⟩ := s
  cases hmain
  have hphase : g.phase = .waiting := (hwaiting next g hg).mpr (Nat.le_refl next)
  refine ⟨h.calm, (map_result_set hg _).trans h.own, h.responseCapacity, h.errCapacity,
    h.responseClosed, h.errClosed, ?_, waiting_spawn hwaiting hg (by decide), h.batchesLe,
    h.batchesLength, h.errorsLe, h.errorsLength, ?_, ?_, h.metricsbatchs, h.errs⟩
  · show next + 1 ≤ results.length
    omega
  · rw [filterMap_set_of_eq hg (by rw [Goroutine.sentBatch, Goroutine.sentBatch, hphase])]
    exact hsentBatches
  · rw [filterMap_set_of_eq hg (by rw [Goroutine.sentErr, Goroutine.sentErr, hphase])]
    exact hsentErrs

theorem Inv.spawned (h : Inv results batches errors s) {next : Nat} (hmain : s.main = .start next)
    (hg : s.goroutines[next]? = none) : Inv results batches errors { s with main := .turn 0 } := by
  have hlength := h.length_goroutines
  have hle := List.getElem?_eq_none_iff.mp hg
  obtain ⟨goroutines, responseChannel, errChannel, main, errs, metricsbatchs, panicked⟩ := s
  cases hmain
  refine ⟨h.calm, h.own, h.responseCapacity, h.errCapacity, h.responseClosed, h.errClosed,
    Nat.le_refl _, ?_, h.batchesLe, h.batchesLength, h.errorsLe, h.errorsLength, h.sentBatches,
    h.sentErrs, h.metricsbatchs, h.errs⟩
  intro k g hgk
  have hlt := (List.getElem?_eq_some_iff.mp hgk).1
  have hstarted : g.phase = .waiting ↔ next ≤ k := h.waiting k g hgk
  rw [hstarted]
  show next ≤ k ↔ results.length ≤ k
  dsimp only at hle hlt hlength
  omega

theorem Inv.recvErr (h : Inv results batches errors s) {i : Nat} {err : Option ScrapError}
    {rest : List (Option ScrapError)} (hmain : s.main = .turn i) (hi : i < s.goroutines.length)
    (hbuffer : s.errChannel.buffer = err :: rest) :
    Inv results batches (errors ++ [err]) { s with
      errChannel := { s.errChannel with buffer := rest }
      main := .paired i err } := by
  have hsent := h.sentErrs
  rw [hbuffer] at hsent
  rw [h.length_goroutines] at hi
  obtain ⟨goroutines, responseChannel, errChannel, main, errs, metricsbatchs, panicked⟩ := s
  cases hmain
  have hcount : errors.length = i := h.errorsLength
  have herrs : errs ++ [] = errors.reduceOption := h.errs
  refine ⟨h.calm, h.own, h.responseCapacity, h.errCapacity, h.responseClosed, h.errClosed,
    h.startedLe, h.waiting, h.batchesLe, h.batchesLength, hi, ?_, h.sentBatches, ?_,
    h.metricsbatchs, ?_⟩
  · rw [List.length_append, hcount]
    rfl
  · rw [List.append_assoc]
    exact hsent
  · rw [List.reduceOption_append, ← herrs, List.append_nil, List.reduceOption_singleton]
    rfl

theorem Inv.collected (h : Inv results batches errors s) {i : Nat} (hmain : s.main = .turn i)
    (hi : ¬i < s.goroutines.length) : Inv results batches errors { s with main := .closeErr } := by
  rw [h.length_goroutines] at hi
  obtain ⟨goroutines, responseChannel, errChannel, main, errs, metricsbatchs, panicked⟩ := s
  cases hmain
  have hle : i ≤ results.length := h.batchesLe
  have hall : i = results.length := by omega
  subst hall
  exact ⟨h.calm, h.own, h.responseCapacity, h.errCapacity, h.responseClosed, h.errClosed,
    h.startedLe, h.waiting, h.batchesLe, h.batchesLength, h.errorsLe, h.errorsLength,
    h.sentBatches, h.sentErrs, h.metricsbatchs, h.errs⟩

theorem Inv.recvBatch (h : Inv results batches errors s) {i : Nat} {err : Option ScrapError}
    {srcBatch : Option MetricsBatch} {rest : List (Option MetricsBatch)}
    (hmain : s.main = .paired i err) (hbuffer : s.responseChannel.buffer = srcBatch :: rest) :
    Inv results (batches ++ [srcBatch]) errors { s with
      responseChannel := { s.responseChannel with buffer := rest }
      errs := s.errs ++ err.toList
      metricsbatchs := s.metricsbatchs ++ srcBatch.toList
      main := .turn (i + 1) } := by
  have hsent := h.sentBatches
  rw [hbuffer] at hsent
  obtain ⟨goroutines, responseChannel, errChannel, main, errs, metricsbatchs, panicked⟩ := s
  cases hmain
  have hcount : batches.length = i := h.batchesLength
  have hkept : metricsbatchs = batches.reduceOption := h.metricsbatchs
  refine ⟨h.calm, h.own, h.responseCapacity, h.errCapacity, h.responseClosed, h.errClosed,
    h.startedLe, h.waiting, h.errorsLe, ?_, h.errorsLe, h.errorsLength, ?_, h.sentErrs, ?_, ?_⟩
  · rw [List.length_append, hcount]
    rfl
  · rw [List.append_assoc]
    exact hsent
  · rw [List.reduceOption_append, ← hkept, List.reduceOption_singleton]
  · exact (List.append_nil _).trans h.errs

theorem Inv.sendBatch (h : Inv results batches errors s) {i : Nat} {g : Goroutine}
    (hg : s.goroutines[i]? = some g) (hphase : g.phase = .collecting) :
    Inv results batches errors { s with
      responseChannel := { s.responseChannel with
        buffer := s.responseChannel.buffer ++ [g.result.metrics] }
      goroutines := s.goroutines.set i { g with phase := .reporting } } := by
  have hunsent : g.sentBatch = none := by rw [Goroutine.sentBatch, hphase]
  refine ⟨h.calm, (map_result_set hg _).trans h.own, h.responseCapacity, h.errCapacity,
    h.responseClosed, h.errClosed, h.startedLe,
    waiting_set h.waiting hg (by rw [hphase]; decide) (by decide), h.batchesLe, h.batchesLength,
    h.errorsLe, h.errorsLength, perm_send h.sentBatches hg hunsent rfl, ?_, h.metricsbatchs, h.errs⟩
  rw [filterMap_set_of_eq hg (by rw [Goroutine.sentErr, Goroutine.sentErr, hphase])]
  exact h.sentErrs

theorem Inv.sendErr (h : Inv results batches errors s) {i : Nat} {g : Goroutine}
    (hg : s.goroutines[i]? = some g) (hphase : g.phase = .reporting) :
    Inv results batches errors { s with
      errChannel := { s.errChannel with buffer := s.errChannel.buffer ++ [g.result.wrapped] }
      goroutines := s.goroutines.set i { g with phase := .finished } } := by
  have hunsent : g.sentErr = none := by rw [Goroutine.sentErr, hphase]
  refine ⟨h.calm, (map_result_set hg _).trans h.own, h.responseCapacity, h.errCapacity,
    h.responseClosed, h.errClosed, h.startedLe,
    waiting_set h.waiting hg (by rw [hphase]; decide) (by decide), h.batchesLe, h.batchesLength,
    h.errorsLe, h.errorsLength, ?_, perm_send h.sentErrs hg hunsent rfl, h.metricsbatchs, h.errs⟩
  rw [filterMap_set_of_eq hg (by rw [Goroutine.sentBatch, Goroutine.sentBatch, hphase])]
  exact h.sentBatches

/-- Each move keeps the invariant. -/
theorem inv_of_moves (h : Inv results batches errors s) {event : Event} (ht : Moves s event t) :
    ∃ batches' errors', Inv results batches' errors' t := by
  cases ht with
  | spawn hmain hg => exact ⟨_, _, h.spawn hmain hg⟩
  | spawned hmain hg => exact ⟨_, _, h.spawned hmain hg⟩
  | recvErr hmain hi hbuffer => exact ⟨_, _, h.recvErr hmain hi hbuffer⟩
  | collected hmain hi => exact ⟨_, _, h.collected hmain hi⟩
  | recvBatch hmain hbuffer => exact ⟨_, _, h.recvBatch hmain hbuffer⟩
  | closeErr hmain =>
      obtain ⟨goroutines, responseChannel, errChannel, main, errs, metricsbatchs, panicked⟩ := s
      cases hmain
      exact ⟨batches, errors, h.calm, h.own, h.responseCapacity, h.errCapacity, h.responseClosed,
        rfl, h.startedLe, h.waiting, h.batchesLe, h.batchesLength, h.errorsLe, h.errorsLength,
        h.sentBatches, h.sentErrs, h.metricsbatchs, h.errs⟩
  | closeResponse hmain =>
      obtain ⟨goroutines, responseChannel, errChannel, main, errs, metricsbatchs, panicked⟩ := s
      cases hmain
      exact ⟨batches, errors, h.calm, h.own, h.responseCapacity, h.errCapacity, rfl, h.errClosed,
        h.startedLe, h.waiting, h.batchesLe, h.batchesLength, h.errorsLe, h.errorsLength,
        h.sentBatches, h.sentErrs, h.metricsbatchs, h.errs⟩
  | sendBatch hg hphase => exact ⟨_, _, h.sendBatch hg hphase⟩
  | sendErr hg hphase => exact ⟨_, _, h.sendErr hg hphase⟩

/-! ## No state before the return is stuck -/

theorem step_main (h : Inv results batches errors s) : step s .main = mainStep s := by
  unfold step
  rw [h.calm, if_neg Bool.false_ne_true]

theorem step_goroutine (h : Inv results batches errors s) {i : Nat} {g : Goroutine}
    (hg : s.goroutines[i]? = some g) : step s (.goroutine i) = goroutineStep s i g := by
  unfold step
  rw [h.calm, if_neg Bool.false_ne_true]
  simp only [hg]

/-- When all goroutines have started and no error is pending, one that has not
sent its error can send. -/
theorem exists_send (h : Inv results batches errors s)
    (hstarted : s.main.started results.length = results.length)
    (herrors : s.main.errors results.length < results.length)
    (hempty : s.errChannel.buffer = []) : ∃ event, step s event ≠ none := by
  have hcount := h.countP_sentErr
  have hlength := h.length_goroutines
  rw [hempty, List.length_nil, Nat.add_zero] at hcount
  have hsome : ∃ g ∈ s.goroutines, g.sentErr = none := by
    by_contra hnone
    push Not at hnone
    have hall : s.goroutines.countP (fun g => g.sentErr.isSome) = s.goroutines.length := by
      apply List.countP_eq_length.mpr
      intro g hg
      exact Option.isSome_iff_ne_none.mpr (hnone g hg)
    omega
  rcases hsome with ⟨g, hmem, hunsent⟩
  rcases List.mem_iff_getElem?.mp hmem with ⟨k, hg⟩
  have hsend := goroutineStep_eq h hg
  refine ⟨.goroutine k, ?_⟩
  rw [step_goroutine h hg]
  cases hphase : g.phase with
  | waiting =>
      have hlt := (List.getElem?_eq_some_iff.mp hg).1
      have hle := (h.waiting k g hg).mp hphase
      omega
  | collecting =>
      rw [hsend.1 hphase]
      exact Option.some_ne_none _
  | reporting =>
      rw [hsend.2 hphase]
      exact Option.some_ne_none _
  | finished =>
      rw [Goroutine.sentErr, hphase] at hunsent
      cases hunsent

/-- Whoever has sent its error has sent its batch before. -/
theorem countP_sentErr_le (gs : List Goroutine) :
    gs.countP (fun g => g.sentErr.isSome) ≤ gs.countP (fun g => g.sentBatch.isSome) := by
  apply List.countP_mono_left
  intro g _ hsent
  unfold Goroutine.sentErr at hsent
  unfold Goroutine.sentBatch
  cases hphase : g.phase with
  | finished => rfl
  | reporting => rfl
  | _ =>
      rw [hphase] at hsent
      cases hsent

/-- If the collector has to wait, some goroutine can send. -/
theorem exists_step (h : Inv results batches errors s) (hmain : s.main ≠ .returned) :
    ∃ event, step s event ≠ none := by
  have hmoves : mainStep s ≠ none → ∃ event, step s event ≠ none := by
    intro hstep
    exact ⟨.main, by rwa [step_main h]⟩
  have hresponseClosed := h.responseClosed
  have herrClosed := h.errClosed
  have hlength := h.length_goroutines
  cases hpc : s.main with
  | start next =>
      apply hmoves
      simp only [mainStep, hpc]
      cases s.goroutines[next]? with
      | some g => exact Option.some_ne_none _
      | none => exact Option.some_ne_none _
  | turn i =>
      by_cases hi : i < s.goroutines.length
      · by_cases hempty : s.errChannel.buffer = []
        · apply exists_send h _ _ hempty
          · rw [hpc]
            rfl
          · rw [hpc]
            show i < results.length
            omega
        · apply hmoves
          rcases Chan.receive_of_ne_nil hempty none with ⟨err, rest, -, hdone⟩
          simp only [mainStep, hpc]
          rw [if_pos hi, hdone]
          exact Option.some_ne_none _
      · apply hmoves
        simp only [mainStep, hpc]
        rw [if_neg hi]
        exact Option.some_ne_none _
  | paired i err =>
      have hsends := countP_sentErr_le s.goroutines
      have hbatches := h.countP_sentBatch
      have herrors := h.countP_sentErr
      rw [hpc] at hbatches herrors
      simp only [Main.batches, Main.errors] at hbatches herrors
      have hpending : s.responseChannel.buffer ≠ [] := by
        intro hempty
        rw [hempty, List.length_nil] at hbatches
        omega
      apply hmoves
      rcases Chan.receive_of_ne_nil hpending none with ⟨srcBatch, rest, -, hdone⟩
      simp only [mainStep, hpc]
      rw [hdone]
      exact Option.some_ne_none _
  | closeErr =>
      rw [hpc] at herrClosed
      apply hmoves
      simp only [mainStep, hpc]
      rw [Chan.close_of_open herrClosed]
      exact Option.some_ne_none _
  | closeResponse =>
      rw [hpc] at hresponseClosed
      apply hmoves
      simp only [mainStep, hpc]
      rw [Chan.close_of_open hresponseClosed]
      exact Option.some_ne_none _
  | returned => exact absurd hpc hmain

/-! ## What the call returns -/

/-- If as much was received as there are goroutines, each of them has sent, and
nothing is left in the channel. -/
theorem perm_of_all_sent {β : Type} {gs : List Goroutine} {received buffer : List β}
    {sent : Goroutine → Option β} {own : Result → β}
    (hown : ∀ g, (sent g).isSome → sent g = some (own g.result))
    (hperm : (received ++ buffer).Perm (gs.filterMap sent)) (hall : received.length = gs.length) :
    received.Perm ((gs.map Goroutine.result).map own) := by
  have hcount : received.length + buffer.length = gs.countP fun g => (sent g).isSome := by
    rw [← List.length_filterMap_eq_countP, ← hperm.length_eq, List.length_append]
  have hle : gs.countP (fun g => (sent g).isSome) ≤ gs.length := List.countP_le_length
  have hempty : buffer = [] := List.length_eq_zero_iff.mp (by omega)
  have hsent : ∀ g ∈ gs, (sent g).isSome := List.countP_eq_length.mp (by omega)
  have hmap : gs.filterMap sent = gs.map (own ∘ Goroutine.result) :=
    List.filterMap_eq_map_iff_forall_eq_some.mpr fun g hg => hown g (hsent g hg)
  rw [hempty, List.append_nil, hmap] at hperm
  rw [List.map_map]
  exact hperm

/-- What the call returns when everything was received. -/
theorem perm_of_returned (h : Inv results batches errors s) (hmain : s.main = .returned) :
    s.metricsbatchs.Perm (results.filterMap Result.metrics) ∧
      s.errs.Perm (results.filterMap Result.wrapped) := by
  have hlength := h.length_goroutines
  have hbatches := h.batchesLength
  have herrors := h.errorsLength
  have hheld := h.errs
  rw [hmain] at hbatches herrors hheld
  have hreceived : batches.Perm (results.map Result.metrics) := by
    rw [← h.own]
    apply perm_of_all_sent _ h.sentBatches
    · rw [hbatches, hlength]
      rfl
    · intro g hsent
      unfold Goroutine.sentBatch at hsent ⊢
      cases hphase : g.phase with
      | reporting => rfl
      | finished => rfl
      | _ =>
          rw [hphase] at hsent
          cases hsent
  have hreported : errors.Perm (results.map Result.wrapped) := by
    rw [← h.own]
    apply perm_of_all_sent _ h.sentErrs
    · rw [herrors, hlength]
      rfl
    · intro g hsent
      unfold Goroutine.sentErr at hsent ⊢
      cases hphase : g.phase with
      | finished => rfl
      | _ =>
          rw [hphase] at hsent
          cases hsent
  have hkept := hreceived.filterMap id
  have hlisted := hreported.filterMap id
  rw [List.filterMap_map] at hkept hlisted
  constructor
  · rw [h.metricsbatchs]
    exact hkept
  · rw [← List.append_nil s.errs]
    exact hheld ▸ hlisted

end Steps

/-- The invariant holds in every reachable state. -/
theorem inv_of_run {results : List Result} {events : List Event} {s : State}
    (hrun : run step (start results) events = some s) :
    ∃ batches errors, Inv results batches errors s := by
  apply run_inv (fun s => ∃ batches errors, Inv results batches errors s) _ _ hrun
  · rintro s event t ⟨batches, errors, h⟩ ht
    exact inv_of_moves h (moves_of_step h ht)
  · exact ⟨[], [], inv_start results⟩

/-- In every state that some order of the steps leads to: nothing has panicked,
some step is possible until the call returns, and when it does it has exactly
the batches and the errors that the nodes have. -/
theorem scrap_delivers (results : List Result) (events : List Event) {s : State}
    (hrun : run step (start results) events = some s) :
    s.panicked = false ∧ (s.main ≠ .returned → ∃ event, step s event ≠ none) ∧
      (s.main = .returned → s.metricsbatchs.Perm (results.filterMap Result.metrics) ∧
        s.errs.Perm (results.filterMap Result.wrapped)) := by
  rcases inv_of_run hrun with ⟨batches, errors, h⟩
  exact ⟨h.calm, exists_step h, perm_of_returned h⟩

/-- A node that is scraped and one that is not. -/
def twoNodes : List Result :=
  [{ node := "a", metrics := some { ip := "10.0.0.1" }, err := none },
   { node := "b", metrics := none, err := some (.fetch "b" "10.0.0.2" (.newRequest "invalid host")) }]

/-- The first turn pairs the error of the second node with the batch of the
first. -/
def crossedEvents : List Event :=
  [.main, .main, .main, .goroutine 0, .goroutine 1, .goroutine 1, .main, .main, .goroutine 0,
    .main, .main, .main, .main, .main]

theorem scrap_delivers_crossed :
    ∃ s, run step (start twoNodes) crossedEvents = some s ∧ s.main = .returned ∧
      s.panicked = false ∧ (s.main ≠ .returned → ∃ event, step s event ≠ none) ∧
      (s.main = .returned → s.metricsbatchs.Perm (twoNodes.filterMap Result.metrics) ∧
        s.errs.Perm (twoNodes.filterMap Result.wrapped)) :=
  ⟨_, rfl, rfl, scrap_delivers twoNodes crossedEvents rfl⟩

end MetricCollector.Scrap
