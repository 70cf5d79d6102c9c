import Mathlib.Algebra.BigOperators.Group.List.Basic
import Mathlib.Algebra.Order.BigOperators.Group.List
import Mathlib.Algebra.Order.Ring.Int
import Mathlib.Tactic.Linarith
import Mathlib.Tactic.NormNum
import Mathlib.Tactic.Ring

/-!
# Exclusive or in the place of a square

In Go `^` is exclusive or, so `d ^ 2` flips one bit of `d`.  Here is how far a
sum of such terms is from a sum of squares.

* `toInt_xor_two` is the flip on the integers, `d + 2` or `d - 2`.
* `Balanced` is the relation between integers whose flips and squares have the
  same sum, and `sum_flip_iff` says so.
* `sum_flip_bmod_iff` is the same over 64-bit words: a difference that does not
  fit its word has a square that no flips make up for.

`toInt_sum` reads the sum of a column of words as an integer.
-/

namespace GoLib

/-! ## The flip -/

/-- `d ^ 2`: the bit of value two is flipped. -/
def flipTwo (d : ℤ) : ℤ := if d % 4 < 2 then d + 2 else d - 2

/-- `1` if the bit is clear, `-1` if it is set. -/
def bitSign (d : ℤ) : ℤ := if d % 4 < 2 then 1 else -1

theorem flipTwo_eq (d : ℤ) : flipTwo d = d + 2 * bitSign d := by
  unfold flipTwo bitSign
  split_ifs
  · rfl
  · rfl

theorem bitSign_le_one (d : ℤ) : bitSign d ≤ 1 := by
  unfold bitSign
  split_ifs
  · exact le_refl _
  · decide

theorem xor_two (n : ℕ) : n ^^^ 2 = if n % 4 < 2 then n + 2 else n - 2 := by
  have hhigh : (n ^^^ 2) / 4 = n / 4 := by
    have hdiv := Nat.xor_div_two_pow (a := n) (b := 2) (n := 2)
    rw [show 2 / 2 ^ 2 = 0 from rfl, Nat.xor_zero] at hdiv
    exact hdiv
  have hlow : (n ^^^ 2) % 4 = n % 4 ^^^ 2 := Nat.xor_mod_two_pow (a := n) (b := 2) (n := 2)
  have hcases : ∀ r < 4, r ^^^ 2 = if r < 2 then r + 2 else r - 2 := by decide
  rw [hcases (n % 4) (Nat.mod_lt _ (by decide))] at hlow
  split_ifs at hlow ⊢
  · omega
  · omega

/-- Exclusive or with two, as arithmetic on the signed value. -/
theorem toInt_xor_two (w : Int64) : (w ^^^ 2).toInt = flipTwo w.toInt := by
  have hx : (w ^^^ 2).toInt = (w.toBitVec ^^^ 2#64).toInt := rfl
  have hw : w.toInt = w.toBitVec.toInt := rfl
  have hlt := w.toBitVec.isLt
  rw [hx, hw, BitVec.toInt_eq_toNat_cond, BitVec.toInt_eq_toNat_cond, BitVec.toNat_xor,
    show (2#64).toNat = 2 from rfl, xor_two]
  generalize w.toBitVec.toNat = n at hlt
  unfold flipTwo
  split_ifs <;> omega

/-! ## Flips and squares -/

/-- The terms `d * (d - 1)` add up to twice the elements whose bit is clear less
those whose bit is set, plus `c` for each element. -/
def Balanced (c : ℤ) (ds : List ℤ) : Prop :=
  (ds.map fun d => d * (d - 1)).sum = 2 * (ds.map bitSign).sum + c * ds.length

instance (c : ℤ) (ds : List ℤ) : Decidable (Balanced c ds) :=
  inferInstanceAs (Decidable (_ = _))

/-- The sums that `Balanced` compares differ as the sums of squares and of flips
do. -/
theorem sum_sub_sum_eq (ds : List ℤ) :
    (ds.map fun d => d * d).sum - (ds.map flipTwo).sum =
      (ds.map fun d => d * (d - 1)).sum - 2 * (ds.map bitSign).sum := by
  induction ds with
  | nil => rfl
  | cons d ds ih =>
      simp only [List.map_cons, List.sum_cons, flipTwo_eq d]
      linarith

theorem sum_flip_iff {c : ℤ} {ds : List ℤ} :
    (ds.map flipTwo).sum + c * ds.length = (ds.map fun d => d * d).sum ↔ Balanced c ds := by
  have hsums := sum_sub_sum_eq ds
  unfold Balanced
  constructor <;> intro h <;> linarith

/-! ## Differences that do not fit -/

/-- An integer that is not its own 64-bit word is far from zero. -/
theorem two_pow_le_sq_of_bmod_ne {d : ℤ} (h : d.bmod (2 ^ 64) ≠ d) :
    2 ^ 126 ≤ d * d ∧ 2 ^ 65 ≤ d * (d - 1) := by
  have hfar : d < -2 ^ 63 ∨ 2 ^ 63 ≤ d := by
    by_contra hnear
    exact h (Int.bmod_eq_of_le (by omega) (by omega))
  rcases hfar with hlow | hhigh
  · constructor <;> nlinarith
  · constructor <;> nlinarith

/-- The flip of a 64-bit word is one. -/
theorem flipTwo_bmod_le (d : ℤ) : flipTwo (d.bmod (2 ^ 64)) ≤ 2 ^ 63 - 1 := by
  have hlt := Int.bmod_lt (x := d) (m := 2 ^ 64) (by decide)
  unfold flipTwo
  split_ifs <;> omega

/-- The sum of the flips of words, with up to two added to each, is below the
square of a difference that does not fit. -/
theorem sum_flip_bmod_lt {c : ℤ} (hc : c ≤ 2) {ds : List ℤ} (hlen : ds.length < 2 ^ 63) :
    (ds.map fun d => flipTwo (d.bmod (2 ^ 64))).sum + c * ds.length < 2 ^ 126 := by
  have hsum : (ds.map fun d => flipTwo (d.bmod (2 ^ 64))).sum ≤ ds.length * (2 ^ 63 - 1) := by
    have hle := List.sum_le_card_nsmul (ds.map fun d => flipTwo (d.bmod (2 ^ 64))) (2 ^ 63 - 1)
    rw [List.length_map, nsmul_eq_mul] at hle
    apply hle
    intro x hx
    rcases List.mem_map.mp hx with ⟨d, -, rfl⟩
    exact flipTwo_bmod_le d
  have hlen' : (ds.length : ℤ) ≤ 2 ^ 63 - 1 := by omega
  have hnonneg : (0 : ℤ) ≤ ds.length := Int.natCast_nonneg _
  calc (ds.map fun d => flipTwo (d.bmod (2 ^ 64))).sum + c * ds.length
      ≤ ds.length * (2 ^ 63 - 1) + 2 * ds.length := by nlinarith
    _ = ds.length * (2 ^ 63 + 1) := by ring
    _ ≤ (2 ^ 63 - 1) * (2 ^ 63 + 1) := by nlinarith
    _ < 2 ^ 126 := by norm_num

/-- So are the sums that `Balanced` compares. -/
theorem not_balanced_of_far {c : ℤ} (hc : c ≤ 2) {ds : List ℤ} (hlen : ds.length < 2 ^ 63)
    {d : ℤ} (hd : d ∈ ds) (hfar : 2 ^ 65 ≤ d * (d - 1)) : ¬Balanced c ds := by
  intro h
  have hnonneg : ∀ x ∈ ds.map fun d : ℤ => d * (d - 1), 0 ≤ x := by
    intro x hx
    rcases List.mem_map.mp hx with ⟨e, -, rfl⟩
    rcases le_or_gt e 0 with hle | hpos
    · nlinarith
    · nlinarith
  have hleft := List.single_le_sum hnonneg _ (List.mem_map_of_mem hd)
  have hright : (ds.map bitSign).sum ≤ ds.length := by
    have hle := List.sum_le_card_nsmul (ds.map bitSign) 1
    rw [List.length_map, nsmul_eq_mul, mul_one] at hle
    apply hle
    intro x hx
    rcases List.mem_map.mp hx with ⟨e, -, rfl⟩
    exact bitSign_le_one e
  unfold Balanced at h
  have hlen' : (ds.length : ℤ) < 2 ^ 63 := by omega
  nlinarith

/-- Over 64-bit words, the flips of the differences have the sum of the squares
just when the differences are balanced. -/
theorem sum_flip_bmod_iff {c : ℤ} (hc : c ≤ 2) {ds : List ℤ} (hlen : ds.length < 2 ^ 63) :
    (ds.map fun d => flipTwo (d.bmod (2 ^ 64))).sum + c * ds.length =
        (ds.map fun d => d * d).sum ↔ Balanced c ds := by
  by_cases hfit : ∀ d ∈ ds, d.bmod (2 ^ 64) = d
  · have hsame : (ds.map fun d => flipTwo (d.bmod (2 ^ 64))) = ds.map flipTwo :=
      List.map_congr_left fun d hd => by rw [hfit d hd]
    rw [hsame, sum_flip_iff]
  · push Not at hfit
    rcases hfit with ⟨d, hd, hne⟩
    have hfar := two_pow_le_sq_of_bmod_ne hne
    refine iff_of_false ?_ (not_balanced_of_far hc hlen hd hfar.2)
    intro heq
    have hnonneg : ∀ x ∈ ds.map fun d : ℤ => d * d, 0 ≤ x := by
      intro x hx
      rcases List.mem_map.mp hx with ⟨e, -, rfl⟩
      exact mul_self_nonneg e
    have hsquare := List.single_le_sum hnonneg _ (List.mem_map_of_mem hd)
    have hsmall := sum_flip_bmod_lt hc hlen
    omega

/-! ## Columns of words -/

/-- A sum that fits its word is exact. -/
theorem toInt_sum {xs : List Int64} (hlow : -2 ^ 63 ≤ (xs.map Int64.toInt).sum)
    (hhigh : (xs.map Int64.toInt).sum < 2 ^ 63) : xs.sum.toInt = (xs.map Int64.toInt).sum := by
  have hof : xs.sum = Int64.ofInt (xs.map Int64.toInt).sum := by
    clear hlow hhigh
    induction xs with
    | nil => rfl
    | cons x xs ih => rw [List.sum_cons, List.map_cons, List.sum_cons, Int64.ofInt_add,
        Int64.ofInt_toInt, ih]
  rw [hof, Int64.toInt_ofInt_of_le hlow hhigh]

end GoLib
