import Mathlib.Algebra.Order.Floor.Div
import Mathlib.Algebra.Order.Ring.Int
import MetricCollector.Resource

/-!
# Scaling a quantity down

`negativeScaleInt64` divides by ten over and over and keeps one bit: whether a
remainder was thrown away on the way.  On an amount that is not negative the
result is the quotient rounded up, which is `negativeScaleInt64_toInt`.
-/

namespace MetricCollector.Resource

/-! ## Rounding up -/

/-- Without a remainder there is nothing to round. -/
theorem ceilDiv_of_dvd {m d : Nat} (hd : 0 < d) (h : d ∣ m) : m ⌈/⌉ d = m / d := by
  apply le_antisymm
  · rw [ceilDiv_le_iff_le_mul hd, Nat.mul_div_cancel' h]
  · have hle : m ⌊/⌋ d ≤ m ⌈/⌉ d := floorDiv_le_ceilDiv
    exact hle

/-- With one, the quotient is the next number. -/
theorem ceilDiv_of_not_dvd {m d : Nat} (hd : 0 < d) (h : ¬ d ∣ m) : m ⌈/⌉ d = m / d + 1 := by
  apply le_antisymm
  · rw [ceilDiv_le_iff_le_mul hd]
    exact (Nat.lt_mul_div_succ m hd).le
  · have hmul : d * (m / d) < m := by
      refine lt_of_le_of_ne (Nat.mul_div_le m d) ?_
      intro heq
      exact h ⟨m / d, heq.symm⟩
    have hup : m ≤ d * (m ⌈/⌉ d) := (ceilDiv_le_iff_le_mul hd).mp le_rfl
    exact Nat.lt_of_mul_lt_mul_left (hmul.trans_le hup)

/-- A larger amount is not rounded to less. -/
theorem ceilDiv_mono {m m' d : Nat} (hd : 0 < d) (h : m ≤ m') : m ⌈/⌉ d ≤ m' ⌈/⌉ d :=
  (gc_mul_ceilDiv hd).monotone_l h

/-- A common factor cancels. -/
theorem mul_ceilDiv_mul {k d : Nat} (hk : 0 < k) (hd : 0 < d) (m : Nat) :
    (k * m) ⌈/⌉ (k * d) = m ⌈/⌉ d := by
  apply eq_of_forall_ge_iff
  intro c
  rw [ceilDiv_le_iff_le_mul (Nat.mul_pos hk hd), ceilDiv_le_iff_le_mul hd, Nat.mul_assoc]
  exact Nat.mul_le_mul_left_iff hk

/-! ## The loop -/

/-- What `divideTens` makes of an amount and the bit it starts with. -/
def roundedTens (m : Nat) (fraction : Bool) (n : Nat) : Nat :=
  if fraction then m / 10 ^ n + 1 else m ⌈/⌉ 10 ^ n

/-- One division and the rest of the loop. -/
theorem roundedTens_succ (m : Nat) (fraction : Bool) (n : Nat) :
    roundedTens m fraction (n + 1) =
      roundedTens (m / 10) (fraction || decide (m % 10 ≠ 0)) n := by
  have hpow : 0 < 10 ^ n := Nat.pow_pos (by decide)
  have hsucc : 10 ^ (n + 1) = 10 * 10 ^ n := Nat.pow_succ'
  have hdiv : m / 10 ^ (n + 1) = m / 10 / 10 ^ n := by
    rw [hsucc, Nat.div_div_eq_div_mul]
  unfold roundedTens
  cases fraction with
  | true => simp [hdiv]
  | false =>
      by_cases hmod : m % 10 = 0
      · have hmul : m = 10 * (m / 10) := (Nat.mul_div_cancel' (Nat.dvd_of_mod_eq_zero hmod)).symm
        have hround : m ⌈/⌉ 10 ^ (n + 1) = (m / 10) ⌈/⌉ 10 ^ n := by
          conv_lhs => rw [hmul, hsucc]
          exact mul_ceilDiv_mul (by decide) hpow (m / 10)
        simp [hmod, hround]
      · have hndvd : ¬ 10 ^ (n + 1) ∣ m := by
          intro h
          exact hmod (Nat.mod_eq_zero_of_dvd ((Dvd.intro _ hsucc.symm).trans h))
        have hround : m ⌈/⌉ 10 ^ (n + 1) = m / 10 / 10 ^ n + 1 := by
          rw [ceilDiv_of_not_dvd (Nat.pow_pos (by decide)) hndvd, hdiv]
        simp [hmod, hround]

/-- Once the amount is used up, only the bit counts. -/
theorem roundedTens_zero (fraction : Bool) (n : Nat) :
    roundedTens 0 fraction n = if fraction then 1 else 0 := by
  cases fraction <;> simp [roundedTens]

theorem toInt_div_ten {value : Int64} {m : Nat} (hm : value.toInt = m) :
    (value / 10).toInt = (m / 10 : Nat) := by
  rw [Int64.toInt_div_of_ne_right _ _ (by decide), hm]
  rfl

theorem toInt_mod_ten {value : Int64} {m : Nat} (hm : value.toInt = m) :
    (value % 10).toInt = (m % 10 : Nat) := by
  rw [Int64.toInt_mod, hm]
  rfl

/-- A value is zero when the amount it stands for is. -/
theorem eq_zero_iff_toInt {value : Int64} {m : Nat} (hm : value.toInt = m) :
    value = 0 ↔ m = 0 := by
  rw [← Int64.toInt_inj, hm]
  exact Int.natCast_eq_zero

theorem divideTens_toInt {base : Int64} (hbase : 0 < base) {value : Int64} {m : Nat}
    (hm : value.toInt = m) {fraction : Bool} (hroom : fraction = true → m + 1 < 2 ^ 63)
    (n : Nat) : (divideTens base value fraction n).toInt = roundedTens m fraction n := by
  induction n generalizing value m fraction with
  | zero =>
      cases fraction with
      | false =>
          have hone : m ⌈/⌉ 1 = m := by
            rw [ceilDiv_of_dvd (by decide) (one_dvd m), Nat.div_one]
          simpa [divideTens, roundedTens, hone] using hm
      | true =>
          have hadd : (value + 1).toInt = (m + 1 : Nat) := by
            have hlt := hroom rfl
            rw [Int64.toInt_add, hm, show (1 : Int64).toInt = 1 from rfl,
              Int.bmod_eq_of_le (by omega) (by omega)]
            rfl
          simpa [divideTens, roundedTens, hbase] using hadd
  | succ n ih =>
      have hlt := value.toInt_lt
      have hbit : (value % 10 != 0) = decide (m % 10 ≠ 0) := by
        rw [Bool.eq_iff_iff, bne_iff_ne, decide_eq_true_iff]
        exact not_congr (eq_zero_iff_toInt (toInt_mod_ten hm))
      rw [divideTens, hbit, roundedTens_succ]
      by_cases hzero : m / 10 = 0
      · rw [if_pos ((eq_zero_iff_toInt (toInt_div_ten hm)).mpr hzero), hzero, roundedTens_zero]
        simp only [if_pos hbase]
        cases fraction || decide (m % 10 ≠ 0) <;> rfl
      · rw [if_neg (mt (eq_zero_iff_toInt (toInt_div_ten hm)).mp hzero)]
        exact ih (toInt_div_ten hm) (fun _ => by omega)

/-- Scaling down rounds up. -/
theorem negativeScaleInt64_toInt {base : Int64} {m : Nat} (hm : base.toInt = m) (n : Nat) :
    (negativeScaleInt64 base n).toInt = (m ⌈/⌉ 10 ^ n : Nat) := by
  unfold negativeScaleInt64
  by_cases hbase : 0 < base
  · rw [divideTens_toInt hbase hm (by simp)]
    rfl
  · have hnonpos : base.toInt ≤ 0 := by
      by_contra hpos
      exact hbase (Int64.lt_iff_toInt_lt.mpr (not_le.mp hpos))
    have hzero : m = 0 := by omega
    subst hzero
    have hbase' : base = 0 := (eq_zero_iff_toInt hm).mpr rfl
    subst hbase'
    cases n with
    | zero => rfl
    | succ n =>
        rw [zero_ceilDiv]
        rfl

end MetricCollector.Resource
