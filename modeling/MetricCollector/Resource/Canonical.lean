import MetricCollector.GoLib.Text
import MetricCollector.Resource
import Mathlib.Data.Nat.Factorization.Basic
import Mathlib.Tactic.Ring

/-!
# The text of a quantity

`String` of a quantity writes a number and a suffix.  All factors of ten go into the
exponent first, and as many as it takes to make the exponent a multiple of three come
back; a binary quantity is written in powers of 1024 where it has them, except below
1024, where it is written like a decimal one.

* `stripFactors_toInt` is the loop that takes the factors out.
* `asCanonicalBytes_of_thousands` is the decimal form of an amount, and
  `asCanonicalBase1024Bytes_of_powers` its binary form.
-/

namespace MetricCollector.Resource

open GoLib

/-! ## Taking factors out -/

/-- The loop of `removeInt64Factors`, for at most `n` factors. -/
def stripFactors (base : Int64) : Nat → Int64 → Int64 × Nat
  | 0, result => (result, 0)
  | n + 1, result =>
      if base ≤ result ∧ result % base = 0 then
        let (amount, times) := stripFactors base n (result / base)
        (amount, times + 1)
      else (result, 0)

/-- `removeInt64Factors`.  An `int64` has fewer than 63 factors. -/
def removeInt64Factors (value base : Int64) : Int64 × Nat :=
  if value < 0 then
    let (amount, times) := stripFactors base 63 (-value)
    (-amount, times)
  else stripFactors base 63 value

/-- The loop of `removeBigIntFactors`, for at most `n` factors. -/
def stripBigIntFactors (factor : Int) : Nat → Int → Int × Nat
  | 0, d => (d, 0)
  | n + 1, d =>
      if d ≠ 0 ∧ d % factor = 0 then
        let (amount, times) := stripBigIntFactors factor n (d / factor)
        (amount, times + 1)
      else (d, 0)

/-- `removeBigIntFactors`.  A number has fewer factors than its size. -/
def removeBigIntFactors (d factor : Int) : Int × Nat := stripBigIntFactors factor d.natAbs d

/-! ## The number -/

/-- `infDecAmount.AsCanonicalBytes`: the loop that brings the exponent to a multiple of
three takes as many turns as the exponent is above one. -/
def infDecCanonicalBytes (unscaled scale : Int) : String × Int :=
  let (amount, times) := removeBigIntFactors unscaled 10
  let exponent := scale + times
  (formatInteger (amount * 10 ^ (exponent % 3).toNat), exponent - exponent % 3)

/-- `infDecAmount.AsCanonicalBase1024Bytes` of a whole number. -/
def infDecCanonicalBase1024Bytes (unscaled : Int) : String × Int :=
  let (amount, exponent) := removeBigIntFactors unscaled 1024
  (formatInteger amount, exponent)

/-- `int64Amount.AsCanonicalBytes`. -/
def Quantity.asCanonicalBytes (q : Quantity) : String × Int :=
  let (amount, times) := removeInt64Factors q.value 10
  let exponent := q.scale + times
  if exponent.tmod 3 = 1 ∨ exponent.tmod 3 = -2 then
    match int64MultiplyScale amount 10 with
    | (amount, true) => (formatInt amount, exponent - 1)
    | (_, false) => infDecCanonicalBytes q.value.toInt q.scale
  else if exponent.tmod 3 = 2 ∨ exponent.tmod 3 = -1 then
    match int64MultiplyScale amount 100 with
    | (amount, true) => (formatInt amount, exponent - 2)
    | (_, false) => infDecCanonicalBytes q.value.toInt q.scale
  else (formatInt amount, exponent)

/-- Whether the loop of `positiveScaleInt64` runs to its end, or its product is exact. -/
def positiveScaleExact (base : Int64) (scale : Nat) : Bool :=
  match scale with
  | 0 => true
  | 1 => (int64MultiplyScale base 10).2
  | 2 => (int64MultiplyScale base 100).2
  | 3 => (int64MultiplyScale base 1000).2
  | 6 => (int64MultiplyScale base 1000000).2
  | 9 => (int64MultiplyScale base 1000000000).2
  | n => tensExact base n
where
  tensExact (value : Int64) : Nat → Bool
    | 0 => true
    | n + 1 =>
        match int64MultiplyScale value 10 with
        | (product, true) => tensExact product n
        | (_, false) => false

/-- `int64Amount.AsCanonicalBase1024Bytes` of an amount that `AsScale(0)` gave back. -/
def Quantity.asCanonicalBase1024Bytes (q : Quantity) : String × Int :=
  if positiveScaleExact q.value q.scale.toNat then
    let (amount, exponent) := removeInt64Factors q.getValue 1024
    (formatInt amount, exponent)
  else infDecCanonicalBase1024Bytes (q.value.toInt * 10 ^ q.scale.toNat)

/-- Whether `negativeScaleInt64` divides without a remainder. -/
def negativeScaleExact (value : Int64) : Nat → Bool
  | 0 => true
  | n + 1 => value % 10 = 0 && (value / 10 = 0 || negativeScaleExact (value / 10) n)

/-- `(*Quantity).AsScale(0)`: the amount as a whole number, and whether nothing was lost. -/
def Quantity.asScale (q : Quantity) : Quantity × Bool :=
  if 0 ≤ q.scale then (q, true)
  else ({ q with value := negativeScaleInt64 q.value (-q.scale).toNat, scale := 0 },
    negativeScaleExact q.value (-q.scale).toNat)

/-! ## The suffix -/

/-- `divideByScaleInt64`; `none` when it is not exact. -/
def divideByScaleInt64 (base : Int64) (scale : Nat) : Option (Int64 × Int64) :=
  if scale = 0 then some (base, 0)
  else if 18 ≤ scale then none
  else some (base / Int64.ofNat (10 ^ scale), base % Int64.ofNat (10 ^ scale))

/-- `(*Quantity).CmpInt64`.  What is left to `inf.Dec` is compared exactly. -/
def Quantity.cmpInt64 (q : Quantity) (y : Int64) : Ordering :=
  let dec := compare (q.value.toInt * 10 ^ q.scale.toNat) (y.toInt * 10 ^ (-q.scale).toNat)
  if q.scale = 0 then compare q.value.toInt y.toInt
  else if 0 < q.scale then
    match divideByScaleInt64 y q.scale.toNat with
    | none => dec
    | some (result, remainder) =>
        if result = q.value then compare 0 remainder.toInt else compare q.value.toInt result.toInt
  else
    match divideByScaleInt64 q.value (-q.scale).toNat with
    | none => dec
    | some (result, remainder) =>
        if result = y then compare remainder.toInt 0 else compare result.toInt y.toInt

/-- The decimal suffixes of `newSuffixer`, by their exponent of ten. -/
def decSuffixes : List (Int × String) :=
  [(-9, "n"), (-6, "u"), (-3, "m"), (0, ""), (3, "k"), (6, "M"), (9, "G"), (12, "T"), (15, "P"),
    (18, "E")]

/-- The binary ones, by their exponent of two. -/
def binSuffixes : List (Int × String) :=
  [(10, "Ki"), (20, "Mi"), (30, "Gi"), (40, "Ti"), (50, "Pi"), (60, "Ei")]

/-- `constructBytes`, whose second result is dropped.  A quantity without a format is
written with an exponent. -/
def constructBytes (exponent : Int) (format : Format) : String :=
  match format with
  | .decimalSI => (decSuffixes.lookup exponent).getD ""
  | .binarySI => (binSuffixes.lookup exponent).getD ""
  | .unset => if exponent = 0 then "" else "e" ++ formatInteger exponent

/-- The decimal branch of `CanonicalizeBytes`. -/
def Quantity.canonicalizeDecimal (q : Quantity) (format : Format) : String × String :=
  let (number, exponent) := q.asCanonicalBytes
  (number, constructBytes exponent format)

/-- `(*Quantity).CanonicalizeBytes`. -/
def Quantity.canonicalizeBytes (q : Quantity) : String × String :=
  if q.value = 0 then ("0", "")
  else
    match q.format with
    | .decimalSI => q.canonicalizeDecimal .decimalSI
    | .unset => q.canonicalizeDecimal .unset
    | .binarySI =>
        if q.cmpInt64 (-1024) = .gt ∧ q.cmpInt64 1024 = .lt then q.canonicalizeDecimal .decimalSI
        else
          match q.asScale with
          | (rounded, true) =>
              let (number, exponent) := rounded.asCanonicalBase1024Bytes
              (number, constructBytes (exponent * 10) .binarySI)
          | (_, false) => q.canonicalizeDecimal .decimalSI

/-- `(*Quantity).String`. -/
def Quantity.string (q : Quantity) : String :=
  let (number, suffix) := q.canonicalizeBytes
  number ++ suffix

/-- Both ways to lose a factor, the two small forms and a large one. -/
example : (newScaledQuantity 250000000 (-9)).string = "250m" ∧
    ({ value := 1000, format := .binarySI } : Quantity).string = "1k" ∧
    ({ value := 1048576, format := .binarySI } : Quantity).string = "1Mi" := by decide

/-! ## What is written -/

/-- The loop takes out every factor there is. -/
theorem stripFactors_toInt {base : Int64} {b a j : Nat} (hbase : base.toInt = b) (hb : 1 < b)
    (ha : ¬ b ∣ a) {value : Int64} (hvalue : value.toInt = (b ^ j * a : Nat)) {n : Nat}
    (hn : j ≤ n) :
    (stripFactors base n value).1.toInt = a ∧ (stripFactors base n value).2 = j := by
  have hpos : 0 < a := Nat.pos_of_ne_zero fun h => ha (h ▸ dvd_zero b)
  induction n generalizing value j with
  | zero =>
      have hj : j = 0 := by omega
      subst hj
      exact ⟨by simpa [stripFactors] using hvalue, rfl⟩
  | succ n ih =>
      have hmod : (value % base).toInt = (b ^ j * a % b : Nat) := by
        rw [Int64.toInt_mod, hvalue, hbase]
        rfl
      rw [stripFactors]
      cases j with
      | zero =>
          have hlast : ¬ (base ≤ value ∧ value % base = 0) := by
            intro h
            have hzero : (value % base).toInt = 0 := by rw [h.2]; rfl
            rw [hmod, Nat.pow_zero, Nat.one_mul] at hzero
            exact ha (Nat.dvd_of_mod_eq_zero (Int.natCast_eq_zero.mp hzero))
          rw [if_neg hlast]
          exact ⟨by simpa using hvalue, rfl⟩
      | succ j =>
          have hfactor : b ^ (j + 1) * a = b * (b ^ j * a) := by rw [Nat.pow_succ]; ring
          have hle : b ≤ b ^ (j + 1) * a := by
            rw [hfactor]
            exact Nat.le_mul_of_pos_right b (Nat.mul_pos (Nat.pow_pos (by omega)) hpos)
          have hturn : base ≤ value ∧ value % base = 0 := by
            constructor
            · rw [Int64.le_iff_toInt_le, hbase, hvalue]
              exact_mod_cast hle
            · rw [← Int64.toInt_inj, hmod, hfactor, Nat.mul_mod_right]
              rfl
          have hdiv : (value / base).toInt = (b ^ j * a : Nat) := by
            have hne : base ≠ -1 := by
              intro h
              rw [h] at hbase
              have hneg : (-1 : Int64).toInt = -1 := rfl
              omega
            rw [Int64.toInt_div_of_ne_right _ _ hne, hvalue, hbase, hfactor, ← Int.ofNat_tdiv,
              Nat.mul_div_cancel_left _ (by omega)]
          rw [if_pos hturn]
          have hrest := ih hdiv (by omega)
          exact ⟨hrest.1, by rw [← hrest.2]⟩

theorem removeInt64Factors_toInt {base : Int64} {b a j : Nat} (hbase : base.toInt = b) (hb : 1 < b)
    (ha : ¬ b ∣ a) {value : Int64} (hvalue : value.toInt = (b ^ j * a : Nat)) :
    (removeInt64Factors value base).1.toInt = a ∧ (removeInt64Factors value base).2 = j := by
  have hpos : 0 < a := Nat.pos_of_ne_zero fun h => ha (h ▸ dvd_zero b)
  have hnonneg : ¬ value < 0 := by
    rw [Int64.lt_iff_toInt_lt, hvalue]
    exact not_lt.mpr (Int.natCast_nonneg _)
  have hj : j < 63 := by
    have hlt := value.toInt_lt
    have hpow : b ^ j < 2 ^ 63 := by
      have hle : b ^ j ≤ b ^ j * a := Nat.le_mul_of_pos_right _ hpos
      omega
    exact (Nat.pow_lt_pow_iff_right (by decide)).mp ((Nat.pow_le_pow_left hb j).trans_lt hpow)
  unfold removeInt64Factors
  rw [if_neg hnonneg]
  exact stripFactors_toInt hbase hb ha hvalue hj.le

/-- A product that fits is exact. -/
theorem int64MultiplyScale_toInt {x y : Int64} {m k : Nat} (hx : x.toInt = m) (hy : y.toInt = k)
    (hk : 0 < k) (hlt : m * k < 2 ^ 63) :
    ∃ z, int64MultiplyScale x y = (z, true) ∧ z.toInt = (m * k : Nat) := by
  have hproduct : (x * y).toInt = (m * k : Nat) := by
    rw [Int64.toInt_mul, hx, hy, ← Nat.cast_mul]
    exact Int.bmod_eq_of_le (by omega) (by omega)
  refine ⟨x * y, ?_, hproduct⟩
  unfold int64MultiplyScale
  by_cases hsmall : x = 0 ∨ x = 1
  · rw [if_pos hsmall]
  · have hmin : x ≠ Int64.minValue := by
      intro h
      rw [h] at hx
      have hneg : Int64.minValue.toInt = -2 ^ 63 := rfl
      omega
    have hexact : x * y / y = x := by
      have hne : y ≠ -1 := by
        intro h
        rw [h] at hy
        have hneg : (-1 : Int64).toInt = -1 := rfl
        omega
      rw [← Int64.toInt_inj, Int64.toInt_div_of_ne_right _ _ hne, hproduct, hx, hy,
        ← Int.ofNat_tdiv, Nat.mul_div_cancel m hk]
    rw [if_neg hsmall, if_neg hmin, hexact]
    simp

/-- What is left of an exponent, with the sign that Go gives it. -/
theorem tmod_three (c : Int) :
    ((c * 3 + 1).tmod 3 = 1 ∨ (c * 3 + 1).tmod 3 = -2) ∧
      ((c * 3 + 2).tmod 3 = 2 ∨ (c * 3 + 2).tmod 3 = -1) ∧ (c * 3).tmod 3 = 0 := by
  refine ⟨?_, ?_, Int.mul_tmod_left c 3⟩
  · rw [Int.tmod_eq_emod]
    split <;> omega
  · rw [Int.tmod_eq_emod]
    split <;> omega

/-- An amount is written with its thousands in the exponent. -/
theorem asCanonicalBytes_of_thousands {q : Quantity} {a j : Nat}
    (hvalue : q.value.toInt = (1000 ^ j * a : Nat)) (ha : ¬ 1000 ∣ a) {c : Int}
    (hscale : q.scale = c * 3) :
    q.asCanonicalBytes = (formatInteger a, (c + j) * 3) := by
  have hne : a ≠ 0 := fun h => ha (h ▸ dvd_zero 1000)
  obtain ⟨k, r, hr, rfl⟩ := Nat.exists_eq_pow_mul_and_not_dvd hne 10 (by decide)
  have hfactors : 1000 ^ j * (10 ^ k * r) = 10 ^ (3 * j + k) * r := by
    rw [Nat.pow_add, Nat.pow_mul]
    ring
  have hlt := q.value.toInt_lt
  rw [hvalue] at hlt
  have hfits : 10 ^ k * r < 2 ^ 63 := by
    have hle : 10 ^ k * r ≤ 1000 ^ j * (10 ^ k * r) :=
      Nat.le_mul_of_pos_left _ (Nat.pow_pos (by decide))
    omega
  rw [hfactors] at hvalue
  have hten : (10 : Int64).toInt = (10 : Nat) := rfl
  obtain ⟨hamount, htimes⟩ := removeInt64Factors_toInt hten (by decide) hr hvalue
  obtain ⟨hone, htwo, hnone⟩ := tmod_three (c + j)
  have hk : k < 3 := by
    by_contra hge
    obtain ⟨d, rfl⟩ := Nat.exists_eq_add_of_le (not_lt.mp hge)
    exact ha ⟨10 ^ d * r, by rw [Nat.pow_add]; ring⟩
  have hexponent : q.scale + (3 * j + k : Nat) = (c + j) * 3 + k := by
    rw [hscale]
    push_cast
    ring
  unfold Quantity.asCanonicalBytes formatInt
  cases hstrip : removeInt64Factors q.value 10 with
  | mk amount times =>
      rw [hstrip] at hamount htimes
      dsimp only at hamount htimes ⊢
      rw [htimes, hexponent]
      -- as many factors of ten come back as are missing to a multiple of three
      obtain hzero | hsome := Nat.eq_zero_or_pos k
      · subst hzero
        simp [hnone, hamount]
      obtain hk | hk : k = 1 ∨ k = 2 := by omega
      · subst hk
        have hback : r * 10 < 2 ^ 63 := by omega
        obtain ⟨z, hz, hvalue⟩ := int64MultiplyScale_toInt hamount hten (by decide) hback
        rw [Nat.cast_one, if_pos hone, hz]
        simp [hvalue, mul_comm]
      · subst hk
        have hback : r * 100 < 2 ^ 63 := by omega
        have hhundred : (100 : Int64).toInt = (100 : Nat) := rfl
        obtain ⟨z, hz, hvalue⟩ := int64MultiplyScale_toInt hamount hhundred (by decide) hback
        have hnot : ¬ (((c + j) * 3 + 2).tmod 3 = 1 ∨ ((c + j) * 3 + 2).tmod 3 = -2) := by omega
        rw [Nat.cast_two, if_neg hnot, if_pos htwo, hz]
        simp [hvalue, mul_comm]

/-- A whole amount is written with its powers of 1024 in the exponent. -/
theorem asCanonicalBase1024Bytes_of_powers {q : Quantity} {a j : Nat}
    (hvalue : q.value.toInt = (1024 ^ j * a : Nat)) (ha : ¬ 1024 ∣ a) (hscale : q.scale = 0) :
    q.asCanonicalBase1024Bytes = (formatInteger a, (j : Int)) := by
  have hbase : (1024 : Int64).toInt = (1024 : Nat) := rfl
  obtain ⟨hamount, htimes⟩ := removeInt64Factors_toInt hbase (by decide) ha hvalue
  have hwhole : q.getValue = q.value := by
    unfold Quantity.getValue Quantity.scaledValue
    rw [hscale]
    rfl
  have hexact : positiveScaleExact q.value q.scale.toNat = true := by
    rw [hscale]
    rfl
  unfold Quantity.asCanonicalBase1024Bytes formatInt
  rw [if_pos hexact, hwhole]
  dsimp only
  rw [hamount, htimes]

/-! ## The text -/

section Text

variable {q : Quantity} {a j : Nat}

theorem ne_zero_of_toInt {m : Nat} (hvalue : q.value.toInt = m) (hm : m ≠ 0) : q.value ≠ 0 := by
  intro h
  rw [h] at hvalue
  exact hm (Int.natCast_eq_zero.mp hvalue.symm)

theorem mul_ne_zero_of_not_dvd {b : Nat} (hb : 0 < b) (ha : ¬ b ∣ a) : b ^ j * a ≠ 0 :=
  Nat.mul_ne_zero (Nat.pow_pos hb).ne' fun h => ha (h ▸ dvd_zero b)

theorem cmpInt64_of_scale (hscale : q.scale = 0) (y : Int64) :
    q.cmpInt64 y = compare q.value.toInt y.toInt :=
  if_pos hscale

/-- A decimal quantity. -/
theorem string_decimalSI (hformat : q.format = .decimalSI)
    (hvalue : q.value.toInt = (1000 ^ j * a : Nat)) (ha : ¬ 1000 ∣ a) {c : Int}
    (hscale : q.scale = c * 3) :
    q.string = formatInteger a ++ constructBytes ((c + j) * 3) .decimalSI := by
  have hne := ne_zero_of_toInt hvalue (mul_ne_zero_of_not_dvd (by decide) ha)
  unfold Quantity.string Quantity.canonicalizeBytes
  rw [if_neg hne, hformat]
  unfold Quantity.canonicalizeDecimal
  rw [asCanonicalBytes_of_thousands hvalue ha hscale]

/-- A binary one below 1024, which is written like a decimal one. -/
theorem string_binarySI_of_lt (hformat : q.format = .binarySI) (hscale : q.scale = 0)
    (hvalue : q.value.toInt = (1000 ^ j * a : Nat)) (ha : ¬ 1000 ∣ a)
    (hlt : 1000 ^ j * a < 1024) :
    q.string = formatInteger a ++ constructBytes (j * 3) .decimalSI := by
  have hne := ne_zero_of_toInt hvalue (mul_ne_zero_of_not_dvd (by decide) ha)
  have hsmall : q.cmpInt64 (-1024) = .gt ∧ q.cmpInt64 1024 = .lt := by
    have hlow : (-1024 : Int64).toInt = -1024 := rfl
    have hhigh : (1024 : Int64).toInt = 1024 := rfl
    rw [cmpInt64_of_scale hscale, cmpInt64_of_scale hscale, hvalue, hlow, hhigh,
      Int.compare_eq_gt, Int.compare_eq_lt]
    omega
  have hzero : q.scale = 0 * 3 := hscale
  unfold Quantity.string Quantity.canonicalizeBytes
  rw [if_neg hne, hformat]
  dsimp only
  rw [if_pos hsmall]
  unfold Quantity.canonicalizeDecimal
  rw [asCanonicalBytes_of_thousands hvalue ha hzero, zero_add]

/-- A binary one from 1024 on. -/
theorem string_binarySI_of_le (hformat : q.format = .binarySI) (hscale : q.scale = 0)
    (hvalue : q.value.toInt = (1024 ^ j * a : Nat)) (ha : ¬ 1024 ∣ a)
    (hle : 1024 ≤ 1024 ^ j * a) :
    q.string = formatInteger a ++ constructBytes (j * 10) .binarySI := by
  have hne := ne_zero_of_toInt hvalue (mul_ne_zero_of_not_dvd (by decide) ha)
  have hlarge : ¬ (q.cmpInt64 (-1024) = .gt ∧ q.cmpInt64 1024 = .lt) := by
    have hhigh : (1024 : Int64).toInt = 1024 := rfl
    intro h
    rw [cmpInt64_of_scale hscale 1024, hvalue, hhigh, Int.compare_eq_lt] at h
    omega
  have hrounded : q.asScale = (q, true) := if_pos hscale.ge
  unfold Quantity.string Quantity.canonicalizeBytes
  rw [if_neg hne, hformat]
  dsimp only
  rw [if_neg hlarge, hrounded]
  dsimp only
  rw [asCanonicalBase1024Bytes_of_powers hvalue ha hscale]

end Text

end MetricCollector.Resource
