import Mathlib.Data.List.Perm.Basic

/-!
# Buffered channels

A buffered channel is a queue with a capacity, open or closed.  An operation on
it goes through, has to wait, or stops the program: a send on a closed channel
and a second close do.

The last section is about a list of goroutines of which one moves.  What they
have sent so far is a `filterMap` over the list, and a step adds to it what the
one that moved has sent (`filterMap_set_of_none`) or nothing
(`filterMap_set_of_eq`).
-/

namespace GoLib

variable {α β : Type}

/-- A buffered channel, with what is in it, oldest first. -/
structure Chan (α : Type) where
  capacity : Nat
  buffer : List α := []
  closed : Bool := false
deriving Repr

/-- The ways a channel operation ends. -/
inductive ChanOp (β : Type) where
  | blocked
  | panics
  | done (result : β)
deriving Repr

namespace Chan

/-- `ch <- x`. -/
def send (ch : Chan α) (x : α) : ChanOp (Chan α) :=
  if ch.closed then .panics
  else if ch.buffer.length < ch.capacity then .done { ch with buffer := ch.buffer ++ [x] }
  else .blocked

/-- `<-ch`; an empty closed channel gives the zero value. -/
def receive (zero : α) (ch : Chan α) : ChanOp (α × Chan α) :=
  match ch.buffer with
  | x :: rest => .done (x, { ch with buffer := rest })
  | [] => if ch.closed then .done (zero, ch) else .blocked

/-- `close(ch)`. -/
def close (ch : Chan α) : ChanOp (Chan α) :=
  if ch.closed then .panics else .done { ch with closed := true }

theorem send_of_room {ch : Chan α} (hopen : ch.closed = false)
    (hroom : ch.buffer.length < ch.capacity) (x : α) :
    ch.send x = .done { ch with buffer := ch.buffer ++ [x] } := by
  rw [send, hopen, if_neg Bool.false_ne_true, if_pos hroom]

theorem close_of_open {ch : Chan α} (hopen : ch.closed = false) :
    ch.close = .done { ch with closed := true } := by
  rw [close, hopen, if_neg Bool.false_ne_true]

theorem receive_of_ne_nil {ch : Chan α} (h : ch.buffer ≠ []) (zero : α) :
    ∃ x rest, ch.buffer = x :: rest ∧
      ch.receive zero = .done (x, { ch with buffer := rest }) := by
  cases hbuffer : ch.buffer with
  | nil => exact absurd hbuffer h
  | cons x rest => exact ⟨x, rest, rfl, by rw [receive, hbuffer]⟩

/-- A receive from an open channel takes the oldest entry or waits. -/
theorem receive_of_open {ch : Chan α} (hopen : ch.closed = false) {zero : α} :
    (ch.buffer = [] ∧ ch.receive zero = .blocked) ∨
      ∃ x rest, ch.buffer = x :: rest ∧
        ch.receive zero = .done (x, { ch with buffer := rest }) := by
  by_cases hempty : ch.buffer = []
  · left
    refine ⟨hempty, ?_⟩
    rw [receive, hempty, hopen]
    rfl
  · exact Or.inr (receive_of_ne_nil hempty zero)

end Chan

/-! ## One of many moves -/

/-- An element that now counts is added to those that did. -/
theorem filterMap_set_of_none {f : α → Option β} {xs : List α} {i : Nat} {x : α}
    (hx : xs[i]? = some x) (hnone : f x = none) (x' : α) :
    ((xs.set i x').filterMap f).Perm ((f x').toList ++ xs.filterMap f) := by
  have hi : i < xs.length := (List.getElem?_eq_some_iff.mp hx).1
  have hget : xs[i] = x := (List.getElem?_eq_some_iff.mp hx).2
  have hset := (List.set_perm_cons_eraseIdx hi x').filterMap f
  have hsame := (List.getElem_cons_eraseIdx_perm hi).filterMap f
  rw [hget, List.filterMap_cons, hnone] at hsame
  rw [List.filterMap_cons] at hset
  cases hf : f x' with
  | none =>
      rw [hf] at hset
      exact hset.trans hsame
  | some y =>
      rw [hf] at hset
      exact hset.trans (hsame.cons y)

/-- An element that counts as before changes nothing. -/
theorem filterMap_set_of_eq {f : α → Option β} {xs : List α} {i : Nat} {x x' : α}
    (hx : xs[i]? = some x) (hsame : f x' = f x) :
    (xs.set i x').filterMap f = xs.filterMap f := by
  induction xs generalizing i with
  | nil => rfl
  | cons y ys ih =>
      cases i with
      | zero =>
          cases hx
          rw [List.set_cons_zero, List.filterMap_cons, List.filterMap_cons, hsame]
      | succ i =>
          rw [List.getElem?_cons_succ] at hx
          rw [List.set_cons_succ, List.filterMap_cons, List.filterMap_cons, ih hx]

end GoLib
