import MetricCollector.Scrap.Delivery

/-!
# Every scrape comes to its end

Each step of `Scrap` is one of a fixed number of steps: for each node a `go`
statement, two sends and two receives, and four more for the turns from one loop to
the next and the deferred calls.

* `State.taken` counts the steps that were taken, from the state alone.
* `taken_of_moves` is the step lemma, and `taken_le` the bound.
* `Reached.exists_run` leads any state to the return.
* `scrap_terminates` is the result about whole runs.
-/

namespace MetricCollector.Scrap

open GoLib Schedule Storage

/-- How many steps the function itself has taken, for `n` nodes. -/
def Main.position (n : Nat) : Main → Nat
  | .start next => next
  | .turn i => n + 1 + 2 * i
  | .paired i _ => n + 2 + 2 * i
  | .closeErr => 3 * n + 2
  | .closeResponse => 3 * n + 3
  | .returned => 3 * n + 4

/-- How many steps were taken.  What was sent is what was received and what is in
the channels. -/
def State.taken (s : State) : Nat :=
  let n := s.goroutines.length
  s.main.position n + (s.main.batches n + s.responseChannel.buffer.length) +
    (s.main.errors n + s.errChannel.buffer.length)

section Steps

variable {results : List Result} {batches : List (Option MetricsBatch)}
  {errors : List (Option ScrapError)} {s t : State}

/-- Each step counts once. -/
theorem taken_of_moves (h : Inv results batches errors s) {event : Event}
    (hmoves : Moves s event t) : t.taken = s.taken + 1 := by
  have hlength := h.length_goroutines
  have hstarted := h.startedLe
  have hbatches := h.batchesLe
  cases hmoves with
  | spawn hmain hg =>
      simp only [State.taken, hmain, Main.position, Main.batches, Main.errors]
      omega
  | spawned hmain hg =>
      -- the loop has come to the last node, and not past it
      have hle := List.getElem?_eq_none_iff.mp hg
      rw [hmain] at hstarted
      simp only [Main.started] at hstarted
      simp only [State.taken, hmain, Main.position, Main.batches, Main.errors]
      omega
  | recvErr hmain hi hbuffer =>
      simp only [State.taken, hmain, hbuffer, List.length_cons, Main.position, Main.batches,
        Main.errors]
      omega
  | collected hmain hi =>
      rw [hmain] at hbatches
      simp only [Main.batches] at hbatches
      simp only [State.taken, hmain, Main.position, Main.batches, Main.errors]
      omega
  | recvBatch hmain hbuffer =>
      simp only [State.taken, hmain, hbuffer, List.length_cons, Main.position, Main.batches,
        Main.errors]
      omega
  | closeErr hmain =>
      simp only [State.taken, hmain, Main.position, Main.batches, Main.errors]
      omega
  | closeResponse hmain =>
      simp only [State.taken, hmain, Main.position, Main.batches, Main.errors]
      omega
  | sendBatch hg hphase =>
      simp only [State.taken, List.length_set, List.length_append, List.length_singleton]
      omega
  | sendErr hg hphase =>
      simp only [State.taken, List.length_set, List.length_append, List.length_singleton]
      omega

/-- No goroutine sends more than its batch and its error. -/
theorem taken_le (h : Inv results batches errors s) :
    s.taken ≤ 5 * results.length + 4 ∧
      (s.taken = 5 * results.length + 4 ↔ s.main = .returned) := by
  have hlength := h.length_goroutines
  have hsentBatch := h.countP_sentBatch
  have hsentErr := h.countP_sentErr
  have hstarted := h.startedLe
  have hle := @List.countP_le_length _ (fun g : Goroutine => g.sentBatch.isSome) s.goroutines
  have hle' := @List.countP_le_length _ (fun g : Goroutine => g.sentErr.isSome) s.goroutines
  simp only [State.taken, hlength]
  cases hmain : s.main with
  | returned =>
      rw [hmain] at hsentBatch hsentErr
      simp only [Main.batches, Main.errors] at hsentBatch hsentErr
      simp only [Main.position, Main.batches, Main.errors, iff_true]
      omega
  | _ =>
      rw [hmain] at hsentBatch hsentErr hstarted
      simp only [Main.batches, Main.errors] at hsentBatch hsentErr
      simp only [Main.started] at hstarted
      simp only [Main.position, Main.batches, Main.errors, reduceCtorEq, iff_false]
      omega

/-- After the return nothing is left to do. -/
theorem step_of_returned (h : Inv results batches errors s) (hreturned : s.main = .returned)
    (event : Event) : step s event = none := by
  by_contra hstep
  obtain ⟨t, ht⟩ := Option.ne_none_iff_exists'.mp hstep
  have hmoves := moves_of_step h ht
  obtain ⟨batches', errors', ht'⟩ := inv_of_moves h hmoves
  have hone := taken_of_moves h hmoves
  have hall := (taken_le h).2.mpr hreturned
  have hle := (taken_le ht').1
  omega

end Steps

/-- The states that `Scrap` can be in. -/
def Reached (results : List Result) (s : State) : Prop :=
  ∃ batches errors, Inv results batches errors s

theorem Reached.step {results : List Result} {s t : State} (h : Reached results s) {event : Event}
    (ht : step s event = some t) : Reached results t ∧ t.taken = s.taken + 1 := by
  obtain ⟨batches, errors, h⟩ := h
  have hmoves := moves_of_step h ht
  exact ⟨inv_of_moves h hmoves, taken_of_moves h hmoves⟩

/-- From each of them the call can be led to its return. -/
theorem Reached.exists_run {results : List Result} {s : State} (h : Reached results s) :
    ∃ events t, run Scrap.step s events = some t ∧ t.main = .returned := by
  refine Schedule.exists_run (Reached results) (fun s => s.main = .returned) State.taken
    (5 * results.length + 4) (fun s event t h ht => h.step ht) ?_ ?_ h
  · rintro s ⟨batches, errors, h⟩
    exact (taken_le h).1
  · rintro s ⟨batches, errors, h⟩ hgoes
    exact exists_step h hgoes

/-- Whatever the order of the steps, `Scrap` takes five for each node and four more:
no run is longer, one of this length has returned, and any other can be led to its
return.  After that no goroutine is left with something to do. -/
theorem scrap_terminates (results : List Result) (events : List Event) {s : State}
    (hrun : run step (start results) events = some s) :
    events.length ≤ 5 * results.length + 4 ∧
      (s.main = .returned ↔ events.length = 5 * results.length + 4) ∧
      ((∀ event, step s event = none) ↔ s.main = .returned) ∧
      ∃ later t, run step s later = some t ∧ t.main = .returned := by
  have hcount : s.taken = (start results).taken + events.length :=
    run_count (Reached results) State.taken (fun s event t h ht => h.step ht)
      ⟨[], [], inv_start results⟩ hrun
  have hzero : (start results).taken = 0 := rfl
  obtain ⟨batches, errors, h⟩ := inv_of_run hrun
  obtain ⟨hle, hall⟩ := taken_le h
  have hreached : Reached results s := ⟨batches, errors, h⟩
  refine ⟨by omega, ?_, ⟨?_, step_of_returned h⟩, hreached.exists_run⟩
  · rw [← hall]
    omega
  · intro hstuck
    by_contra hgoes
    obtain ⟨event, hevent⟩ := exists_step h hgoes
    exact hevent (hstuck event)

/-- The two nodes whose batches and errors cross. -/
theorem scrap_terminates_crossed :
    ∃ s, run step (start twoNodes) crossedEvents = some s ∧ crossedEvents.length = 14 ∧
      s.main = .returned :=
  ⟨_, rfl, rfl, (scrap_terminates twoNodes crossedEvents rfl).2.1.mpr rfl⟩

end MetricCollector.Scrap
