import Mathlib.Algebra.Order.Ring.Int

/-!
# Counters that are read and reset in two steps

A goroutine adds to a counter that another one empties: it reads the value, and
a later step sets the counter back to zero.  `Drain` is such a counter with the
sums of what was added to it and of what was read from it.  `lost` is what of the
added amounts is neither among the values read nor waits in the counter.

* `lost_add_of_pending`: an addition between the read and the reset is lost.
* `lost_add_of_rest`: any other addition loses what the counter does not show.
* `lost_read`, `lost_reset`: reading and resetting lose nothing.

For an `int` counter that takes unsigned readings, `toInt_add_uint32` is what it
shows after an addition, and `lost_addReading` says which additions lose nothing.
-/

namespace GoLib

/-- A counter, and what has become of the amounts that were added to it. -/
structure Drain where
  held : Int
  added : Int
  drained : Int
  /-- The value has been read, and the reset has not happened yet. -/
  pending : Bool

namespace Drain

variable {c : Drain}

/-- What was added, but was not read and does not wait to be read. -/
def lost (c : Drain) : Int := c.added - c.drained - (if c.pending then 0 else c.held)

/-- The amount `x` is added, after which the counter shows `held`. -/
def add (c : Drain) (x held : Int) : Drain := { c with held := held, added := c.added + x }

/-- The value is read. -/
def read (c : Drain) : Drain := { c with drained := c.drained + c.held, pending := true }

/-- The counter is set back to zero. -/
def reset (c : Drain) : Drain := { c with held := 0, pending := false }

theorem lost_of_pending (h : c.pending = true) : c.lost = c.added - c.drained := by
  unfold lost
  rw [if_pos h]
  omega

theorem lost_of_rest (h : c.pending = false) : c.lost = c.added - c.drained - c.held := by
  unfold lost
  rw [if_neg (by simp [h])]

theorem lost_add_of_pending (h : c.pending = true) (x held : Int) :
    (c.add x held).lost = c.lost + x := by
  have hpending : (c.add x held).pending = true := h
  rw [lost_of_pending h, lost_of_pending hpending]
  show c.added + x - c.drained = _
  omega

theorem lost_add_of_rest (h : c.pending = false) (x held : Int) :
    (c.add x held).lost = c.lost + (c.held + x - held) := by
  have hrest : (c.add x held).pending = false := h
  rw [lost_of_rest h, lost_of_rest hrest]
  show c.added + x - c.drained - held = _
  omega

theorem lost_read (h : c.pending = false) : c.read.lost = c.lost := by
  rw [lost_of_rest h, lost_of_pending rfl]
  show c.added - (c.drained + c.held) = _
  omega

theorem lost_reset (h : c.pending = true) : c.reset.lost = c.lost := by
  rw [lost_of_pending h, lost_of_rest rfl]
  show c.added - c.drained - 0 = _
  omega

/-- At rest nothing is lost when what was read and what waits is what was added. -/
theorem lost_eq_zero_iff (h : c.pending = false) : c.lost = 0 ↔ c.drained + c.held = c.added := by
  rw [lost_of_rest h]
  omega

end Drain

/-- Adding to an `int` counter wraps where the sum does not fit. -/
theorem toInt_add_uint32 (a : Int64) (x : UInt32) :
    (a + x.toUInt64.toInt64).toInt =
      if a.toInt + x.toNat < 2 ^ 63 then a.toInt + x.toNat
      else a.toInt + x.toNat - 2 ^ 64 := by
  have hlow := Int64.le_toInt a
  have hhigh := Int64.toInt_lt a
  have hsmall : x.toNat < 2 ^ 32 := x.toNat_lt
  have hnat : x.toUInt64.toBitVec.toNat = x.toNat := UInt32.toNat_toUInt64 x
  have hx : x.toUInt64.toInt64.toInt = x.toNat := by
    show x.toUInt64.toBitVec.toInt = _
    rw [BitVec.toInt_eq_toNat_of_lt (by omega), hnat]
  rw [Int64.toInt_add, hx]
  by_cases hfits : a.toInt + x.toNat < 2 ^ 63
  · rw [if_pos hfits]
    exact Int.bmod_eq_of_le (by omega) (by omega)
  · have hmod : (a.toInt + x.toNat) % (2 ^ 64 : Nat) = a.toInt + x.toNat :=
      Int.emod_eq_of_lt (by omega) (by omega)
    rw [if_neg hfits, Int.bmod_def, hmod, if_neg (by omega)]
    omega

namespace Drain

/-- The reading is added to an `int` counter. -/
def addReading (c : Drain) (a : Int64) (x : UInt32) : Drain :=
  c.add x.toNat (a + x.toUInt64.toInt64).toInt

/-- The reading is zero, or it comes outside of the read and the reset and its
sum fits. -/
def Takes (c : Drain) (x : UInt32) : Prop :=
  if c.pending then x = 0 else c.held + x.toNat < 2 ^ 63

/-- An addition loses nothing exactly when the counter takes it, and never makes
up for what was lost. -/
theorem lost_addReading {c : Drain} {a : Int64} (ha : c.held = a.toInt) (hlost : 0 ≤ c.lost)
    (x : UInt32) :
    0 ≤ (c.addReading a x).lost ∧
      ((c.addReading a x).lost = 0 ↔ c.lost = 0 ∧ c.Takes x) := by
  unfold addReading Takes
  by_cases hpending : c.pending = true
  · have hzero : x = 0 ↔ (x.toNat : Int) = 0 := by
      rw [← UInt32.toNat_inj]
      show _ = 0 ↔ _
      omega
    rw [lost_add_of_pending hpending, if_pos hpending, hzero]
    omega
  · have hrest : c.pending = false := by simpa using hpending
    have hshown := toInt_add_uint32 a x
    rw [lost_add_of_rest hrest, if_neg hpending, ha]
    by_cases hfits : a.toInt + x.toNat < 2 ^ 63
    · rw [if_pos hfits] at hshown
      omega
    · rw [if_neg hfits] at hshown
      omega

end Drain

end GoLib
