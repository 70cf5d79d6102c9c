import MetricCollector.Decode
import MetricCollector.GoLib.Channel
import MetricCollector.GoLib.Schedule
import MetricCollector.KubeletClient

/-!
# Scraping the nodes

`Scrap` starts a goroutine for each node, which sends the node's batch and then
its error on two buffered channels.  The collector receives an error and a
batch in each turn, in the other order and from whichever nodes sent first.

The system is a step function on a state, with one event for the function
itself and one for each goroutine.  A send on a closed channel, and any other
operation that panics, is a step to a state that has panicked.
-/

namespace MetricCollector.Scrap

open GoLib Schedule Storage Kubelet Decode

/-! ## One node -/

/-- What is read of a `v1.Node`. -/
structure Node where
  name : String
  /-- `Status.Addresses`. -/
  addresses : List String
deriving DecidableEq, Repr

/-- The errors of `CollectNode`. -/
inductive CollectError where
  /-- `"unable to fetch metrics from Kubelet %s (%s): %v"`. -/
  | fetch (node address : String) (err : KubeletError)
  /-- What `DecodeBatch` returned. -/
  | decode (errs : List DecodeError)
deriving DecidableEq, Repr

/-- `CollectNode`. -/
def collectNode (kc : KubeletClient) (bearerToken : String) (node : Node) :
    Exec (Option MetricsBatch × Option CollectError) := do
  let host ← index .collectNode node.addresses 0
  let (summary, err) ← kc.getSummary host bearerToken
  match err with
  | some err => return (none, some (.fetch node.name host err))
  | none =>
      let summary ← deref .decodeBatch summary
      let (batch, errs) ← decodeBatch summary
      return (some batch, errs.map CollectError.decode)

/-! ## The goroutines and the collector -/

/-- What `CollectNode` returned for a node. -/
structure Result where
  node : String
  metrics : Option MetricsBatch
  err : Option CollectError
deriving DecidableEq, Repr

/-- `"unable to fully scrape metrics from node %s: %v"`. -/
structure ScrapError where
  node : String
  err : CollectError
deriving DecidableEq, Repr

/-- The error that the goroutine sends. -/
def Result.wrapped (result : Result) : Option ScrapError :=
  result.err.map fun err => ⟨result.node, err⟩

/-- How far a goroutine is. -/
inductive Phase where
  /-- Its `go` statement has not run. -/
  | waiting
  /-- It collects, and will send its batch next. -/
  | collecting
  /-- It will send its error next. -/
  | reporting
  | finished
deriving DecidableEq, Repr

/-- The goroutine of a node. -/
structure Goroutine where
  result : Result
  phase : Phase := .waiting
deriving DecidableEq, Repr

/-- Where the function itself is. -/
inductive Main where
  /-- At the `go` statement for this node. -/
  | start (next : Nat)
  /-- At the head of this turn of the collecting loop. -/
  | turn (i : Nat)
  /-- In this turn, with the error it received. -/
  | paired (i : Nat) (err : Option ScrapError)
  /-- The result is there, and the deferred calls run, last first. -/
  | closeErr
  | closeResponse
  | returned
deriving DecidableEq, Repr

/-- A state of the call. -/
structure State where
  goroutines : List Goroutine
  responseChannel : Chan (Option MetricsBatch)
  errChannel : Chan (Option ScrapError)
  main : Main := .start 0
  errs : List ScrapError := []
  metricsbatchs : List MetricsBatch := []
  panicked : Bool := false

/-- The call on nodes that `CollectNode` returns these results for. -/
def start (results : List Result) : State where
  goroutines := results.map fun result => { result := result }
  responseChannel := { capacity := results.length }
  errChannel := { capacity := results.length }

/-- Who takes the next step. -/
inductive Event where
  | main
  | goroutine (i : Nat)
deriving DecidableEq, Repr

/-- A step of the function itself. -/
def mainStep (s : State) : Option State :=
  match s.main with
  | .start next =>
      match s.goroutines[next]? with
      | some g => some { s with
          goroutines := s.goroutines.set next { g with phase := .collecting }
          main := .start (next + 1) }
      | none => some { s with main := .turn 0 }
  | .turn i =>
      if i < s.goroutines.length then
        match s.errChannel.receive none with
        | .done (err, ch) => some { s with errChannel := ch, main := .paired i err }
        | .panics => some { s with panicked := true }
        | .blocked => none
      else some { s with main := .closeErr }
  | .paired i err =>
      match s.responseChannel.receive none with
      | .done (srcBatch, ch) => some { s with
          responseChannel := ch
          errs := s.errs ++ err.toList
          metricsbatchs := s.metricsbatchs ++ srcBatch.toList
          main := .turn (i + 1) }
      | .panics => some { s with panicked := true }
      | .blocked => none
  | .closeErr =>
      match s.errChannel.close with
      | .done ch => some { s with errChannel := ch, main := .closeResponse }
      | .panics => some { s with panicked := true }
      | .blocked => none
  | .closeResponse =>
      match s.responseChannel.close with
      | .done ch => some { s with responseChannel := ch, main := .returned }
      | .panics => some { s with panicked := true }
      | .blocked => none
  | .returned => none

/-- A step of a goroutine. -/
def goroutineStep (s : State) (i : Nat) (g : Goroutine) : Option State :=
  match g.phase with
  | .waiting => none
  | .collecting =>
      match s.responseChannel.send g.result.metrics with
      | .done ch => some { s with
          responseChannel := ch
          goroutines := s.goroutines.set i { g with phase := .reporting } }
      | .panics => some { s with panicked := true }
      | .blocked => none
  | .reporting =>
      match s.errChannel.send g.result.wrapped with
      | .done ch => some { s with
          errChannel := ch
          goroutines := s.goroutines.set i { g with phase := .finished } }
      | .panics => some { s with panicked := true }
      | .blocked => none
  | .finished => none

/-- The steps of the call; a panic ends the program. -/
def step (s : State) (event : Event) : Option State :=
  if s.panicked then none
  else
    match event with
    | .main => mainStep s
    | .goroutine i =>
        match s.goroutines[i]? with
        | some g => goroutineStep s i g
        | none => none

end MetricCollector.Scrap
