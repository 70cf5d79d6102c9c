import Mathlib.Data.Int.Log
import Mathlib.Data.Rat.Floor
import Mathlib.Tactic.FieldSimp
import Mathlib.Tactic.GCongr
import Mathlib.Tactic.Linarith
import Mathlib.Tactic.NormNum
import Mathlib.Tactic.Positivity

/-!
# The nearest `float64`

`strconv.ParseFloat(s, 64)` returns the `float64` nearest to the number that
the text denotes.  Here it is a rational number.

* `roundEven` is the nearest integer, the even one of two.
* `lastPlace` is the exponent of the last of the 53 bits of a significand, which
  is bounded below by the exponent of the least positive `float64`.
* `nearestFloat64` rounds to a multiple of that power of two.

`abs_nearestFloat64_sub_le` bounds the error, and `nearestFloat64_intCast` says
that the integers of 53 bits have none.  Numbers from `2 ^ 1024` on, for which
the source returns an infinity, are rounded as if the exponent had no bound.
-/

namespace GoLib

/-! ## The nearest integer -/

/-- The nearest integer, and the even one of two that are as near. -/
def roundEven (q : ℚ) : ℤ :=
  if q - ⌊q⌋ < 1 / 2 then ⌊q⌋
  else if 1 / 2 < q - ⌊q⌋ then ⌊q⌋ + 1
  else if ⌊q⌋ % 2 = 0 then ⌊q⌋
  else ⌊q⌋ + 1

theorem abs_roundEven_sub_le (q : ℚ) : |(roundEven q : ℚ) - q| ≤ 1 / 2 := by
  have hlow : (⌊q⌋ : ℚ) ≤ q := Int.floor_le q
  have hhigh : q < (⌊q⌋ : ℚ) + 1 := Int.lt_floor_add_one q
  rw [roundEven, abs_le]
  split_ifs with hdown hup heven
  · constructor <;> linarith
  · push_cast
    constructor <;> linarith
  · constructor <;> linarith
  · push_cast
    constructor <;> linarith

@[simp] theorem roundEven_intCast (n : ℤ) : roundEven n = n := by
  have hfloor : ⌊(n : ℚ)⌋ = n := Int.floor_intCast n
  rw [roundEven, hfloor, if_pos (by norm_num)]

/-! ## The nearest `float64` -/

/-- The exponent of the last place of the significand. -/
def lastPlace (q : ℚ) : ℤ := max (Int.log 2 |q| - 52) (-1074)

/-- The `float64` nearest to a number. -/
def nearestFloat64 (q : ℚ) : ℚ := roundEven (q / 2 ^ lastPlace q) * 2 ^ lastPlace q

/-- The error is at most half a unit in the last place. -/
theorem abs_nearestFloat64_sub_le (q : ℚ) : |nearestFloat64 q - q| ≤ 2 ^ lastPlace q / 2 := by
  have hpos : (0 : ℚ) < 2 ^ lastPlace q := zpow_pos (by norm_num) _
  have hround := abs_roundEven_sub_le (q / 2 ^ lastPlace q)
  have hscale : nearestFloat64 q - q =
      (roundEven (q / 2 ^ lastPlace q) - q / 2 ^ lastPlace q) * 2 ^ lastPlace q := by
    rw [nearestFloat64]
    field_simp
  calc |nearestFloat64 q - q|
      = |(roundEven (q / 2 ^ lastPlace q) : ℚ) - q / 2 ^ lastPlace q| * 2 ^ lastPlace q := by
        rw [hscale, abs_mul, abs_of_pos hpos]
    _ ≤ 1 / 2 * 2 ^ lastPlace q := by gcongr
    _ = 2 ^ lastPlace q / 2 := by ring

/-- The last place of a number below a power of two. -/
theorem lastPlace_le {q : ℚ} {e : ℕ} (hpos : 0 < e) (h : |q| < 2 ^ e) :
    lastPlace q ≤ e - 53 := by
  have hlog : Int.log 2 |q| < e := by
    rcases (abs_nonneg q).eq_or_lt with hzero | habs
    · rw [← hzero, Int.log_zero_right]
      exact_mod_cast hpos
    · apply (Int.lt_zpow_iff_log_lt (b := 2) (by decide) habs).mp
      rw [zpow_natCast]
      exact_mod_cast h
  rw [lastPlace]
  omega

/-- A multiple of a power of two from the last place on is not rounded. -/
theorem nearestFloat64_of_multiple {q : ℚ} {n k : ℤ} (h : q = n * 2 ^ k)
    (hk : lastPlace q ≤ k) : nearestFloat64 q = q := by
  have hne : (2 : ℚ) ^ lastPlace q ≠ 0 := zpow_ne_zero _ (by norm_num)
  obtain ⟨d, hd⟩ := Int.eq_ofNat_of_zero_le (show 0 ≤ k - lastPlace q by omega)
  have hquot : q / 2 ^ lastPlace q = ((n * 2 ^ d : ℤ) : ℚ) := by
    have hsplit : k = d + lastPlace q := by omega
    rw [div_eq_iff hne]
    calc q = n * 2 ^ k := h
      _ = n * (2 ^ d * 2 ^ lastPlace q) := by
        conv_lhs => rw [hsplit, zpow_add₀ (by norm_num), zpow_natCast]
      _ = ((n * 2 ^ d : ℤ) : ℚ) * 2 ^ lastPlace q := by
        push_cast
        ring
  rw [nearestFloat64, hquot, roundEven_intCast, ← hquot, div_mul_cancel₀ _ hne]

/-- The integers of at most 53 bits are not rounded. -/
theorem nearestFloat64_intCast {n : ℤ} (h : |n| ≤ 2 ^ 53) : nearestFloat64 n = n := by
  rcases h.lt_or_eq with hlt | heq
  · have hplace : lastPlace n ≤ 0 := by
      have hle := lastPlace_le (q := n) (e := 53) (by decide) (by exact_mod_cast hlt)
      omega
    apply nearestFloat64_of_multiple (n := n) _ hplace
    rw [zpow_zero, mul_one]
  · have hplace : lastPlace n ≤ 1 := by
      have hbound : |n| < 2 ^ 54 := by omega
      have hle := lastPlace_le (q := n) (e := 54) (by decide) (by exact_mod_cast hbound)
      omega
    apply nearestFloat64_of_multiple (n := n / 2) _ hplace
    have hhalf : n = n / 2 * 2 := by
      rcases (abs_eq (by norm_num)).mp heq with rfl | rfl
      · rfl
      · rfl
    rw [zpow_one]
    exact_mod_cast hhalf

/-- A number below a power of two is rounded by at most half of its last place. -/
theorem abs_nearestFloat64_sub_le_of_lt {q : ℚ} {e : ℕ} (hpos : 0 < e) (h : |q| < 2 ^ e) :
    |nearestFloat64 q - q| ≤ 2 ^ ((e : ℤ) - 53) / 2 := by
  have hplace : (2 : ℚ) ^ lastPlace q ≤ 2 ^ ((e : ℤ) - 53) :=
    zpow_le_zpow_right₀ (by norm_num) (lastPlace_le hpos h)
  have herror := abs_nearestFloat64_sub_le q
  linarith

/-- Two neighbours of `2 ^ 53`, of which one is a `float64`. -/
example : nearestFloat64 9007199254740994 = 9007199254740994 ∧
    nearestFloat64 9007199254740993 = 9007199254740992 := by decide +kernel

end GoLib
