import MetricCollector.Decode
import MetricCollector.Resource.Rounding

/-!
# Reading a counter back

The consumers of a decoded counter call `Value` on a number of bytes and
`MilliValue` on a number of nanocores.  Above `2 ^ 63 - 1` a counter is kept
without its last digit, at a scale that is one higher: nanocores are scaled
down from there, but bytes are scaled back up, and that product wraps.

`readsBack_iff` says for which counters the figures can be relied on.
-/

namespace MetricCollector.Decode

open Resource

/-- What a consumer reads of a number of bytes. -/
def readBytes (v : UInt64) : Int64 := (uint64Quantity v 0).getValue

/-- What a consumer reads of a number of nanocores. -/
def readCPU (v : UInt64) : Int64 := (uint64Quantity v (-9)).milliValue

/-- The format plays no part. -/
theorem getValue_bytesQuantity (v : UInt64) : (bytesQuantity v).getValue = readBytes v := rfl

/-- What may be relied on when the counters `v` and `w` are read back. -/
structure ReadsBack (v w : UInt64) : Prop where
  bytes_nonneg : 0 ≤ readBytes v ∧ 0 ≤ readBytes w
  bytes_le : readBytes v ≤ readBytes w
  cpu_nonneg : 0 ≤ readCPU v ∧ 0 ≤ readCPU w
  cpu_le : readCPU v ≤ readCPU w
  bytes_exact : v.toNat < 2 ^ 63 → (readBytes v).toInt = v.toNat
  cpu_exact : v.toNat < 2 ^ 63 → (readCPU v).toInt = (v.toNat ⌈/⌉ 10 ^ 6 : Nat)

/-! ## Large counters -/

theorem uint64Quantity_of_ge {v : UInt64} (h : 2 ^ 63 ≤ v.toNat) (scale : Int) :
    uint64Quantity v scale = newScaledQuantity (v / 10).toInt64 (1 + scale) :=
  if_neg (by omega)

/-- Without its last digit a counter fits. -/
theorem toInt_div_ten_toInt64 (v : UInt64) : (v / 10).toInt64.toInt = (v.toNat / 10 : Nat) := by
  have hlt := v.toNat_lt
  have hdiv : (v / 10).toNat = v.toNat / 10 := UInt64.toNat_div v 10
  rw [toInt_toInt64 (by omega), hdiv]

/-! ## Bytes -/

theorem readBytes_of_lt {v : UInt64} (h : v.toNat < 2 ^ 63) : (readBytes v).toInt = v.toNat := by
  unfold readBytes
  rw [uint64Quantity_of_lt h]
  exact toInt_toInt64 h

/-- Scaling up by one digit multiplies, whatever the overflow flag says. -/
theorem readBytes_of_ge {v : UInt64} (h : 2 ^ 63 ≤ v.toNat) :
    (readBytes v).toInt = ((v.toNat / 10 * 10 : Nat) : Int).bmod (2 ^ 64) := by
  have hvalue := toInt_div_ten_toInt64 v
  have hmul : readBytes v = (v / 10).toInt64 * 10 := by
    unfold readBytes
    rw [uint64Quantity_of_ge h]
    have hmin : (v / 10).toInt64 ≠ Int64.minValue := by
      intro heq
      have hneg : (v / 10).toInt64.toInt = -2 ^ 63 := by rw [heq]; rfl
      omega
    have hproduct : (int64MultiplyScale (v / 10).toInt64 10).1 = (v / 10).toInt64 * 10 := by
      unfold int64MultiplyScale
      rw [if_neg hmin]
      exact (apply_ite Prod.fst _ _ _).trans (ite_self _)
    exact hproduct
  rw [hmul, Int64.toInt_mul, hvalue]
  rfl

/-- The two counters that still fit after the detour have lost their last digit. -/
theorem readBytes_of_lt_add_two {v : UInt64} (h : 2 ^ 63 ≤ v.toNat) (hlt : v.toNat < 2 ^ 63 + 2) :
    (readBytes v).toInt = 2 ^ 63 - 8 := by
  have hdigits : v.toNat / 10 * 10 = 2 ^ 63 - 8 := by omega
  rw [readBytes_of_ge h, hdigits]
  decide

/-- All others are read as negative numbers. -/
theorem readBytes_of_ge_add_two {v : UInt64} (h : 2 ^ 63 + 2 ≤ v.toNat) :
    (readBytes v).toInt < 0 := by
  have hlt := v.toNat_lt
  rw [readBytes_of_ge (by omega), Int.bmod_neg_iff (by omega) (by omega)]
  exact Or.inr (by omega)

/-! ## Nanocores -/

theorem readCPU_of_lt {v : UInt64} (h : v.toNat < 2 ^ 63) :
    (readCPU v).toInt = (v.toNat ⌈/⌉ 10 ^ 6 : Nat) := by
  unfold readCPU
  rw [uint64Quantity_of_lt h]
  exact negativeScaleInt64_toInt (toInt_toInt64 h) 6

theorem readCPU_of_ge {v : UInt64} (h : 2 ^ 63 ≤ v.toNat) :
    (readCPU v).toInt = (v.toNat / 10 ⌈/⌉ 10 ^ 5 : Nat) := by
  unfold readCPU
  rw [uint64Quantity_of_ge h]
  exact negativeScaleInt64_toInt (toInt_div_ten_toInt64 v) 5

theorem readCPU_nonneg (v : UInt64) : 0 ≤ (readCPU v).toInt := by
  by_cases h : v.toNat < 2 ^ 63
  · rw [readCPU_of_lt h]
    exact Int.natCast_nonneg _
  · rw [readCPU_of_ge (not_lt.mp h)]
    exact Int.natCast_nonneg _

/-- The last counter on the one side of the switch-over rounds to no more than
the first on the other. -/
theorem readCPU_mono {v w : UInt64} (h : v ≤ w) : (readCPU v).toInt ≤ (readCPU w).toInt := by
  have hle : v.toNat ≤ w.toNat := UInt64.le_iff_toNat_le.mp h
  by_cases hw : w.toNat < 2 ^ 63
  · rw [readCPU_of_lt hw, readCPU_of_lt (hle.trans_lt hw)]
    exact Int.ofNat_le.mpr (ceilDiv_mono (by decide) hle)
  · rw [readCPU_of_ge (not_lt.mp hw)]
    by_cases hv : v.toNat < 2 ^ 63
    · rw [readCPU_of_lt hv]
      apply Int.ofNat_le.mpr
      calc v.toNat ⌈/⌉ 10 ^ 6 ≤ (2 ^ 63 - 1) ⌈/⌉ 10 ^ 6 := ceilDiv_mono (by decide) (by omega)
        _ = 2 ^ 63 / 10 ⌈/⌉ 10 ^ 5 := by decide
        _ ≤ w.toNat / 10 ⌈/⌉ 10 ^ 5 := ceilDiv_mono (by decide) (by omega)
    · rw [readCPU_of_ge (not_lt.mp hv)]
      exact Int.ofNat_le.mpr (ceilDiv_mono (by decide) (by omega))

/-! ## Both -/

/-- Below `2 ^ 63` the figures can be relied on.  So they can on its first two
counters, unless the other one is among the last seven before. -/
theorem readsBack_iff {v w : UInt64} (h : v ≤ w) :
    ReadsBack v w ↔ w.toNat < 2 ^ 63 ∨
      w.toNat < 2 ^ 63 + 2 ∧ (v.toNat ≤ 2 ^ 63 - 8 ∨ 2 ^ 63 ≤ v.toNat) := by
  have hle : v.toNat ≤ w.toNat := UInt64.le_iff_toNat_le.mp h
  constructor
  · intro hreads
    have hnonneg : 0 ≤ (readBytes w).toInt := Int64.le_iff_toInt_le.mp hreads.bytes_nonneg.2
    have hmono := Int64.le_iff_toInt_le.mp hreads.bytes_le
    by_cases hw : w.toNat < 2 ^ 63
    · exact Or.inl hw
    · have hw' : w.toNat < 2 ^ 63 + 2 := by
        by_contra hge
        exact absurd (readBytes_of_ge_add_two (not_lt.mp hge)) (not_lt.mpr hnonneg)
      rw [readBytes_of_lt_add_two (not_lt.mp hw) hw'] at hmono
      by_cases hv : v.toNat < 2 ^ 63
      · rw [readBytes_of_lt hv] at hmono
        omega
      · exact Or.inr ⟨hw', Or.inr (not_lt.mp hv)⟩
  · intro hcounters
    have hbytes : 0 ≤ (readBytes v).toInt ∧ (readBytes v).toInt ≤ (readBytes w).toInt := by
      by_cases hw : w.toNat < 2 ^ 63
      · rw [readBytes_of_lt hw, readBytes_of_lt (hle.trans_lt hw)]
        omega
      · obtain ⟨hw', hv⟩ := hcounters.resolve_left hw
        rw [readBytes_of_lt_add_two (not_lt.mp hw) hw']
        by_cases hv63 : v.toNat < 2 ^ 63
        · rw [readBytes_of_lt hv63]
          omega
        · rw [readBytes_of_lt_add_two (not_lt.mp hv63) (hle.trans_lt hw')]
          omega
    exact
      { bytes_nonneg := ⟨Int64.le_iff_toInt_le.mpr hbytes.1,
          Int64.le_iff_toInt_le.mpr (hbytes.1.trans hbytes.2)⟩
        bytes_le := Int64.le_iff_toInt_le.mpr hbytes.2
        cpu_nonneg := ⟨Int64.le_iff_toInt_le.mpr (readCPU_nonneg v),
          Int64.le_iff_toInt_le.mpr (readCPU_nonneg w)⟩
        cpu_le := Int64.le_iff_toInt_le.mpr (readCPU_mono h)
        bytes_exact := readBytes_of_lt
        cpu_exact := readCPU_of_lt }

theorem readsBack_small : (7 : UInt64) ≤ 4096 ∧ ReadsBack 7 4096 :=
  ⟨by decide, (readsBack_iff (by decide)).mpr (Or.inl (by decide))⟩

/-- The counter `9223372036854775810`, which is `2 ^ 63 + 2`, is read back as a negative number of bytes. -/
theorem not_readsBack : ¬ ∀ v w : UInt64, v ≤ w → ReadsBack v w := by
  intro h
  have hreads := h 9223372036854775810 9223372036854775810 (by decide)
  exact absurd hreads.bytes_nonneg.1 (by decide)

end MetricCollector.Decode
