import MetricCollector.CustomMetrics
import MetricCollector.CustomMetrics.Deploy

/-!
# What the texts of the figures are read as

`AddToDeployCustomMetricServer` drops the last character from the text of a processor
figure and the last two from those of memory and storage, and posts the rest in nanocores
and in units of 1024 bytes.  The text has that unit for some amounts only.

* `trimmed_of_string` is what is left of a number and a suffix.
* `trimmed_cpu_iff` and `trimmed_bytes_iff` say for which counters this is the figure that
  is meant.
-/

namespace MetricCollector.CustomMetrics

open GoLib Decode Resource Storage

/-! ## Dropping characters -/

/-- A number without its last digits is the number divided, or no digit is left. -/
theorem take_toDigits (a m : Nat) :
    let cs := (Nat.toDigits 10 a).take ((Nat.toDigits 10 a).length - m)
    cs = [] ∧ a / 10 ^ m = 0 ∨ cs = Nat.toDigits 10 (a / 10 ^ m) := by
  dsimp only
  induction m generalizing a with
  | zero =>
      right
      rw [Nat.sub_zero, List.take_length, Nat.pow_zero, Nat.div_one]
  | succ m ih =>
      by_cases hlt : a < 10
      · left
        have hpow : 1 ≤ 10 ^ m := Nat.pow_pos (by decide)
        rw [Nat.toDigits_of_lt_base hlt, Nat.pow_succ]
        exact ⟨by simp, Nat.div_eq_of_lt (by omega)⟩
      · have hdiv : a / 10 ^ (m + 1) = a / 10 / 10 ^ m := by
          rw [Nat.pow_succ', Nat.div_div_eq_div_mul]
        have hlength : (Nat.toDigits 10 (a / 10)).length + 1 - (m + 1) =
            (Nat.toDigits 10 (a / 10)).length - m := Nat.add_sub_add_right _ 1 m
        rw [hdiv, Nat.toDigits_of_base_le (by decide) (not_lt.mp hlt), List.length_append,
          List.length_singleton, hlength, List.take_append_of_le_length (Nat.sub_le _ m)]
        exact ih (a / 10)

/-- Such a text parses to the number divided. -/
theorem parseInt_take_toDigits {a : Nat} (ha : a < 2 ^ 64) (m : Nat) :
    parseInt (String.ofList ((Nat.toDigits 10 a).take ((Nat.toDigits 10 a).length - m))) =
      Int64.ofIntClamp (a / 10 ^ m : Nat) := by
  cases take_toDigits a m with
  | inl hnone =>
      rw [hnone.1, hnone.2]
      rfl
  | inr hsome =>
      have hvalue := @Nat.ofDigitChars_ten_toDigits (a / 10 ^ m)
      rw [hsome, parseInt_digits Nat.toDigits_ne_nil (fun c hc => isDigit_of_mem_toDigits hc), hvalue]
      rw [hvalue]
      exact (Nat.div_le_self a _).trans_lt ha

/-- What is read of a number and a suffix. -/
theorem trimmed_of_string {q : Quantity} {a : Nat} (ha : a < 2 ^ 64) {suffix : String} {n : Nat}
    (hn : 0 < n) (hsuffix : suffix.length ≤ n) (hstring : q.string = formatInteger a ++ suffix) :
    trimmed n q = Int64.ofIntClamp (a / 10 ^ (n - suffix.length) : Nat) := by
  have hdigits : formatInteger a = String.ofList (Nat.toDigits 10 a) := by
    unfold formatInteger
    rw [if_neg (by omega), Int.natAbs_natCast]
  have hlength : q.string.length = (Nat.toDigits 10 a).length + suffix.length := by
    rw [hstring, hdigits, String.length_append, String.length_ofList]
  unfold trimmed
  by_cases hlong : 1 < q.string.length
  · have htake : q.string.toList.take (q.string.length - n) =
        (Nat.toDigits 10 a).take ((Nat.toDigits 10 a).length - (n - suffix.length)) := by
      rw [hlength, hstring, hdigits, String.toList_append, String.toList_ofList,
        List.take_append_of_le_length (by omega)]
      congr 1
      omega
    rw [if_pos hlong, htake, parseInt_take_toDigits ha]
  · -- one digit and no suffix
    have hpos : 0 < (Nat.toDigits 10 a).length := List.length_pos_of_ne_nil Nat.toDigits_ne_nil
    have hnone : suffix.length = 0 := by omega
    have hlt : a < 10 := by
      by_contra hge
      rw [Nat.toDigits_of_base_le (by decide) (not_lt.mp hge), List.length_append] at hlength
      have hmore : 0 < (Nat.toDigits 10 (a / 10)).length :=
        List.length_pos_of_ne_nil Nat.toDigits_ne_nil
      rw [List.length_singleton] at hlength
      omega
    have hpow : 10 ^ 1 ≤ 10 ^ n := Nat.pow_le_pow_right (by decide) hn
    rw [if_neg hlong, hnone, Nat.sub_zero, Nat.div_eq_of_lt (by omega)]
    rfl

/-- No suffix of a table is longer than its longest one. -/
theorem length_lookup_le {table : List (Int × String)} {n : Nat}
    (htable : ∀ entry ∈ table, entry.2.length ≤ n) (exponent : Int) :
    ((table.lookup exponent).getD "").length ≤ n := by
  induction table with
  | nil => exact Nat.zero_le n
  | cons entry table ih =>
      obtain ⟨key, suffix⟩ := entry
      rw [List.lookup_cons]
      cases exponent == key with
      | true => exact htable _ List.mem_cons_self
      | false => exact ih fun e he => htable e (List.mem_cons_of_mem _ he)

theorem length_decSuffix_le (exponent : Int) :
    (constructBytes exponent .decimalSI).length ≤ 1 :=
  length_lookup_le (by decide) exponent

theorem length_binSuffix_le (exponent : Int) :
    (constructBytes exponent .binarySI).length ≤ 2 :=
  length_lookup_le (by decide) exponent

/-! ## The figures -/

/-- A number that is less than 2 ^ 63 is read as it is, divided as it may be. -/
theorem toInt_trimmed {q : Quantity} {a : Nat} (ha : a < 2 ^ 63) {suffix : String} {n : Nat}
    (hn : 0 < n) (hsuffix : suffix.length ≤ n) (hstring : q.string = formatInteger a ++ suffix) :
    (trimmed n q).toInt = (a / 10 ^ (n - suffix.length) : Nat) := by
  rw [trimmed_of_string (by omega) hn hsuffix hstring]
  exact toInt_ofIntClamp ((Nat.div_le_self a _).trans_lt ha)

/-- A processor figure is read in nanocores unless it is a multiple of a thousand, when it
is written in a larger unit. -/
theorem trimmed_cpu_iff {u : UInt64} (hu : u.toNat < 2 ^ 63) :
    (trimmed 1 (uint64Quantity u (-9))).toInt = u.toNat ↔ u.toNat = 0 ∨ ¬ 1000 ∣ u.toNat := by
  rw [uint64Quantity_of_lt hu]
  by_cases hzero : u.toNat = 0
  · have hu0 : u = 0 := UInt64.toNat_inj.mp hzero
    subst hu0
    simp only [hzero, true_or, iff_true]
    decide
  obtain ⟨j, a, ha, heq⟩ := Nat.exists_eq_pow_mul_and_not_dvd hzero 1000 (by decide)
  have hpos : 0 < a := Nat.pos_of_ne_zero fun h => ha (h ▸ dvd_zero 1000)
  have hle : a ≤ u.toNat := by
    rw [heq]
    exact Nat.le_mul_of_pos_left a (Nat.pow_pos (by decide))
  have hvalue : (newScaledQuantity u.toInt64 (-9)).value.toInt = (1000 ^ j * a : Nat) := by
    rw [← heq]
    exact toInt_toInt64 hu
  have hscale : (newScaledQuantity u.toInt64 (-9)).scale = -3 * 3 := rfl
  have hstring := string_decimalSI rfl hvalue ha hscale
  have hread := toInt_trimmed (hle.trans_lt hu) (by decide) (length_decSuffix_le _) hstring
  rw [hread, Int.natCast_inj]
  cases j with
  | zero =>
      have hnano : (constructBytes ((-3 + (0 : Nat)) * 3) .decimalSI).length = 1 := by decide
      rw [hnano, heq]
      simpa using Or.inr ha
  | succ j =>
      have hdvd : 1000 ∣ u.toNat := ⟨1000 ^ j * a, by rw [heq, Nat.pow_succ]; ring⟩
      have hless : a < u.toNat := by
        have hmul : 1 * a < 1000 ^ (j + 1) * a :=
          Nat.mul_lt_mul_of_pos_right (Nat.one_lt_pow (by omega) (by decide)) hpos
        omega
      have hdiv := Nat.div_le_self a
        (10 ^ (1 - (constructBytes ((-3 + (j + 1 : Nat)) * 3) .decimalSI).length))
      constructor
      · intro h
        omega
      · intro h
        exact absurd hdvd (h.resolve_left hzero)

/-- A figure below 1024 is written as it is, except 1000, and loses two digits. -/
theorem trimmed_bytes_of_lt {u : UInt64} (hpos : 0 < u.toNat) (hlt : u.toNat < 1024) :
    (trimmed 2 (bytesQuantity u)).toInt = 0 ↔ u.toNat < 100 ∨ u.toNat = 1000 := by
  have hvalue : (bytesQuantity u).value.toInt = u.toNat := by
    unfold bytesQuantity
    rw [uint64Quantity_of_lt (by omega)]
    exact toInt_toInt64 (by omega)
  have hscale : (bytesQuantity u).scale = 0 := by
    unfold bytesQuantity
    rw [uint64Quantity_of_lt (by omega)]
    rfl
  by_cases hkilo : u.toNat = 1000
  · have hfactors : (bytesQuantity u).value.toInt = (1000 ^ 1 * 1 : Nat) := by
      rw [hvalue, hkilo]
      rfl
    have hstring := string_binarySI_of_lt rfl hscale hfactors (by decide) (by decide)
    have hread : (trimmed 2 (bytesQuantity u)).toInt = _ :=
      toInt_trimmed (by decide) (by decide) (by decide) hstring
    rw [hread]
    exact iff_of_true (by decide) (Or.inr hkilo)
  · have hfactors : (bytesQuantity u).value.toInt = (1000 ^ 0 * u.toNat : Nat) := by
      rw [hvalue]
      simp
    have hndvd : ¬ 1000 ∣ u.toNat := by omega
    have hstring := string_binarySI_of_lt rfl hscale hfactors hndvd (by omega)
    have hread : (trimmed 2 (bytesQuantity u)).toInt = _ :=
      toInt_trimmed (by omega) (by decide) (by decide) hstring
    have hsuffix : (constructBytes ((0 : Nat) * 3) .decimalSI).length = 0 := by decide
    rw [hread, hsuffix]
    omega

/-- From 1024 on it has the unit that is meant if it is a multiple of 1024 bytes, but not
of 1024 times as many. -/
theorem trimmed_bytes_of_le {u : UInt64} (hle : 1024 ≤ u.toNat) (hu : u.toNat < 2 ^ 63) :
    (trimmed 2 (bytesQuantity u)).toInt = (u.toNat / 1024 : Nat) ↔
      1024 ∣ u.toNat ∧ ¬ 1024 ^ 2 ∣ u.toNat := by
  obtain ⟨j, a, ha, heq⟩ := Nat.exists_eq_pow_mul_and_not_dvd (by omega : u.toNat ≠ 0) 1024 (by decide)
  have hpos : 0 < a := Nat.pos_of_ne_zero fun h => ha (h ▸ dvd_zero 1024)
  have hscale : (bytesQuantity u).scale = 0 := by
    unfold bytesQuantity
    rw [uint64Quantity_of_lt hu]
    rfl
  have hvalue : (bytesQuantity u).value.toInt = (1024 ^ j * a : Nat) := by
    unfold bytesQuantity
    rw [uint64Quantity_of_lt hu, ← heq]
    exact toInt_toInt64 hu
  have hfits : a < 2 ^ 63 := by
    have hmul : a ≤ 1024 ^ j * a := Nat.le_mul_of_pos_left a (Nat.pow_pos (by decide))
    omega
  have hstring := string_binarySI_of_le rfl hscale hvalue ha (heq ▸ hle)
  have hread := toInt_trimmed hfits (by decide) (length_binSuffix_le _) hstring
  rw [hread, Int.natCast_inj]
  match j with
  | 0 =>
      rw [Nat.pow_zero, Nat.one_mul] at heq
      have hsuffix : (constructBytes ((0 : Nat) * 10) .binarySI).length = 0 := by decide
      rw [hsuffix]
      constructor
      · intro h
        omega
      · intro h
        exact absurd (heq ▸ h.1) ha
  | 1 =>
      have hsuffix : (constructBytes ((1 : Nat) * 10) .binarySI).length = 2 := by decide
      rw [hsuffix]
      refine iff_of_true ?_ ⟨⟨a, by rw [heq]; ring⟩, ?_⟩
      · omega
      · intro hdvd
        obtain ⟨b, hb⟩ := hdvd
        exact ha ⟨b, by omega⟩
  | j + 2 =>
      have hkibi : u.toNat / 1024 = 1024 ^ (j + 1) * a := by
        have hfactor : u.toNat = 1024 * (1024 ^ (j + 1) * a) := by
          rw [heq, Nat.pow_succ 1024 (j + 1)]
          ring
        rw [hfactor, Nat.mul_div_cancel_left _ (by decide)]
      have hless : 1 * a < 1024 ^ (j + 1) * a :=
        Nat.mul_lt_mul_of_pos_right (Nat.one_lt_pow (by omega) (by decide)) hpos
      have hdiv := Nat.div_le_self a
        (10 ^ (2 - (constructBytes ((j + 2 : Nat) * 10) .binarySI).length))
      refine iff_of_false ?_ ?_
      · omega
      · intro h
        exact h.2 ⟨1024 ^ j * a, by rw [heq, Nat.pow_add]; ring⟩

/-- A figure of memory or storage is read in units of 1024 bytes, rounded down, for less
than 100 bytes, for 1000, and for the multiples of 1024 that are none of 1024 ^ 2. -/
theorem trimmed_bytes_iff {u : UInt64} (hu : u.toNat < 2 ^ 63) :
    (trimmed 2 (bytesQuantity u)).toInt = (u.toNat / 1024 : Nat) ↔
      u.toNat < 100 ∨ u.toNat = 1000 ∨ 1024 ∣ u.toNat ∧ ¬ 1024 ^ 2 ∣ u.toNat := by
  by_cases hzero : u.toNat = 0
  · have hu0 : u = 0 := UInt64.toNat_inj.mp hzero
    subst hu0
    exact iff_of_true (by decide) (Or.inl (by decide))
  by_cases hlt : u.toNat < 1024
  · rw [Nat.div_eq_of_lt hlt, Nat.cast_zero, trimmed_bytes_of_lt (by omega) hlt]
    omega
  · rw [trimmed_bytes_of_le (by omega) hu]
    omega

/-- The three figures of a pod that are posted, against the counters that the kubelet
sent. -/
structure ReadAs (value : PodMetricsPoint) (usage memory storage : UInt64) : Prop where
  cpu : usage.toNat < 2 ^ 63 →
    ((trimmed 1 value.metricsPoint.cpuUsageNanoCores).toInt = usage.toNat ↔
      usage.toNat = 0 ∨ ¬ 1000 ∣ usage.toNat)
  memory : memory.toNat < 2 ^ 63 →
    ((trimmed 2 value.metricsPoint.memoryUsageBytes).toInt = (memory.toNat / 1024 : Nat) ↔
      memory.toNat < 100 ∨ memory.toNat = 1000 ∨
        1024 ∣ memory.toNat ∧ ¬ 1024 ^ 2 ∣ memory.toNat)
  storage : storage.toNat < 2 ^ 63 →
    ((trimmed 2 value.metricsPoint.fsUsedBytes).toInt = (storage.toNat / 1024 : Nat) ↔
      storage.toNat < 100 ∨ storage.toNat = 1000 ∨
        1024 ∣ storage.toNat ∧ ¬ 1024 ^ 2 ∣ storage.toNat)

/-- From the kubelet's counters to the figures that are posted: the figure of a pod is the
counter, in its unit, for exactly these counters. -/
theorem readAs_of_decodeBatch {summary : Stats.Summary} {batch : MetricsBatch}
    {err : Option (List DecodeError)} (h : decodeBatch summary = .ok (batch, err)) :
    ∀ value ∈ batch.pods, ∃ pod ∈ summary.pods, value.name = pod.podRef.name ∧
      ∃ usage memory storage,
        pod.cpu.bind Stats.CPUStats.usageNanoCores = some usage ∧
        pod.memory.bind Stats.MemoryStats.usageBytes = some memory ∧
        (pod.ephemeralStorage.map fun fs => fs.usedBytes.getD 0) = some storage ∧
        ReadAs value usage memory storage := by
  obtain ⟨node, nodeErrs, decoded, _, hpods, rfl, _⟩ := decodeBatch_eq_ok h
  intro value hvalue
  obtain ⟨⟨out, errs⟩, hmem, rfl⟩ := List.mem_map.mp hvalue
  obtain ⟨pod, hpod, hout⟩ := exists_of_mem_mapM hpods (List.mem_of_mem_filter hmem)
  have herrs : errs = [] := by simpa using (List.mem_filter.mp hmem).2
  subst herrs
  refine ⟨pod, hpod, ?_⟩
  rw [decodePodStats_eq] at hout
  cases decode_cases hout with
  | inl hdiscarded =>
      obtain ⟨err, hnone, _⟩ := hdiscarded.reported
      cases hnone
  | inr hdecoded =>
      obtain ⟨point, rfl, hdecoded⟩ := hdecoded
      obtain ⟨hcpu, hworkingSet, hfs⟩ := hdecoded.clean.mp rfl
      obtain ⟨usage, husage⟩ := Option.isSome_iff_exists.mp hcpu
      obtain ⟨workingSet, hbind⟩ := Option.isSome_iff_exists.mp hworkingSet
      obtain ⟨sectionOf, hmemory, hset⟩ := Option.bind_eq_some_iff.mp hbind
      obtain ⟨memory, husedBytes⟩ := Option.isSome_iff_exists.mp
        (hdecoded.counted.memory sectionOf hmemory (by rw [hset]; rfl))
      obtain ⟨fs, hfsSome⟩ := Option.isSome_iff_exists.mp hfs
      have hbytes : (podCaller pod).sections.filled .memoryUsage = some memory := by
        unfold Sections.filled
        rw [hmemory, Option.bind_some, hset, Option.bind_some, husedBytes]
      have hstorage : (podCaller pod).sections.filled .fsUsed = some (fs.usedBytes.getD 0) := by
        unfold Sections.filled
        rw [hfsSome, Option.map_some]
      have hread : ∀ m val, (podCaller pod).sections.filled m = some val →
          Metric.read point m = m.convert val := by
        intro m val hfilled
        rw [hdecoded.quantities m, Sections.fill, hfilled]
        rfl
      refine ⟨rfl, usage, memory, fs.usedBytes.getD 0, husage, ?_, hstorage, ?_⟩
      · show (podCaller pod).sections.memory.bind Stats.MemoryStats.usageBytes = some memory
        rw [hmemory, Option.bind_some, husedBytes]
      · constructor
        · intro hlt
          rw [← trimmed_cpu_iff hlt]
          exact iff_of_eq (congrArg (fun q => (trimmed 1 q).toInt = _) (hread _ _ husage))
        · intro hlt
          rw [← trimmed_bytes_iff hlt]
          exact iff_of_eq (congrArg (fun q => (trimmed 2 q).toInt = _) (hread _ _ hbytes))
        · intro hlt
          rw [← trimmed_bytes_iff hlt]
          exact iff_of_eq (congrArg (fun q => (trimmed 2 q).toInt = _) (hread _ _ hstorage))

/-- 250 millicores are not read in nanocores, and two kibibytes are read in their unit. -/
theorem readAs_of_onePod :
    ∃ value ∈ onePodBatch.pods, ∃ usage memory storage, ReadAs value usage memory storage ∧
      (trimmed 1 value.metricsPoint.cpuUsageNanoCores).toInt ≠ usage.toNat ∧
      (trimmed 2 value.metricsPoint.fsUsedBytes).toInt = (storage.toNat / 1024 : Nat) := by
  have hdecode : ∃ err, decodeBatch onePod = .ok (onePodBatch, err) := ⟨_, rfl⟩
  obtain ⟨err, hdecode⟩ := hdecode
  have hmem := onePodBatch.pods.get_mem ⟨0, by decide⟩
  obtain ⟨pod, hpod, _, usage, memory, storage, husage, _, hstorage, hread⟩ :=
    readAs_of_decodeBatch hdecode _ hmem
  rw [List.mem_singleton.mp hpod] at husage hstorage
  cases husage
  cases hstorage
  exact ⟨_, hmem, _, memory, _, hread, by decide, by decide⟩

end MetricCollector.CustomMetrics
