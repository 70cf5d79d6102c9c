import MetricCollector.Decode.Readback
import MetricCollector.GoLib.Text

/-!
# The figures of the node

`AddToPodCustomMetricServer` puts the node's capacity beside its use.  The cores
and the memory come from the texts of `/proc/cpuinfo` and `/proc/meminfo`, the
rest comes from the first decoded batch.  A file that cannot be read is an empty
text here, since the source only prints the error.

* `foldlM_readMemTotal` is what the loop over `/proc/meminfo` finds.
* `nodememory_le_totalmemory_iff` compares the memory in use with the memory
  there is.
* `addToPodCustomMetricServer_iff` says what is returned for any two texts.
-/

namespace MetricCollector.CustomMetrics

open GoLib Decode Resource Storage

/-- What `AddToPodCustomMetricServer` returns, under the names of its caller. -/
structure NodeFigures where
  totalcpu : Int64
  nodecpu : Int64
  totalmemory : Int64
  nodememory : Int64
  nodetotalstorage : Int64
  nodestorage : Int64
deriving DecidableEq, Repr

/-- A line of `/proc/cpuinfo`. -/
def countProcessor (cpucore : Int64) (line : String) : Int64 :=
  match fields line with
  | [] => cpucore
  | first :: _ => if first = "processor" then cpucore + 1 else cpucore

/-- A line of `/proc/meminfo`.  `Atoi` gives a number even beside an error. -/
def readMemTotal (totalmemory : Int64) (line : String) : Exec Int64 :=
  match fields line with
  | [] => return totalmemory
  | first :: rest =>
      if first = "MemTotal:" then do
        let total ← index .addToPodCustomMetricServer (first :: rest) 1
        return parseInt total
      else return totalmemory

/-- `AddToPodCustomMetricServer`. -/
def addToPodCustomMetricServer (cpuinfo meminfo : String) (data : Collection) :
    Exec NodeFigures := do
  let cpucore := (split '\n' cpuinfo).foldl countProcessor 0
  let totalmemory ← (split '\n' meminfo).foldlM readMemTotal 0
  let batch ← index .addToPodCustomMetricServer data.metricsbatchs 0
  let point := batch.node.metricsPoint
  return {
    totalcpu := cpucore * 1000
    nodecpu := point.cpuUsageNanoCores.milliValue
    totalmemory := totalmemory * 1000
    nodememory := point.memoryUsageBytes.getValue
    nodetotalstorage := point.fsCapacityBytes.getValue
    nodestorage := point.fsUsedBytes.getValue }

/-! ## The memory there is -/

/-- A line `MemTotal: k kB`. -/
def IsMemTotal (line : String) (k : Nat) : Prop :=
  ∃ digits : List Char, fields line = ["MemTotal:", String.ofList digits, "kB"] ∧ digits ≠ [] ∧
    (∀ c ∈ digits, c.isDigit = true) ∧ Nat.ofDigitChars 10 digits 0 = k

/-- A text with one such line among others. -/
def HasMemTotal (meminfo : String) (k : Nat) : Prop :=
  ∃ before line after, split '\n' meminfo = before ++ line :: after ∧ IsMemTotal line k ∧
    ∀ other ∈ before ++ after, (fields other).head? ≠ some "MemTotal:"

/-- Any other line is passed over. -/
theorem readMemTotal_other {line : String} (h : (fields line).head? ≠ some "MemTotal:")
    (totalmemory : Int64) : readMemTotal totalmemory line = .ok totalmemory := by
  unfold readMemTotal
  cases hfields : fields line with
  | nil => rfl
  | cons first rest =>
      rw [hfields] at h
      exact if_neg (by simpa using h)

theorem readMemTotal_of_isMemTotal {line : String} {k : Nat} (h : IsMemTotal line k)
    (hfits : k < 2 ^ 64) (totalmemory : Int64) :
    readMemTotal totalmemory line = .ok (Int64.ofIntClamp k) := by
  obtain ⟨digits, hfields, hne, hdigits, rfl⟩ := h
  unfold readMemTotal
  rw [hfields, ← parseInt_digits hne hdigits hfits]
  rfl

/-- The loop over `/proc/meminfo` ends with the number on the one line. -/
theorem foldlM_readMemTotal {meminfo : String} {k : Nat} (h : HasMemTotal meminfo k)
    (hfits : k < 2 ^ 64) :
    (split '\n' meminfo).foldlM readMemTotal 0 = .ok (Int64.ofIntClamp k) := by
  obtain ⟨before, line, after, hsplit, hline, hothers⟩ := h
  have hbefore : before.foldlM readMemTotal 0 = .ok (before.foldl (fun total _ => total) 0) :=
    foldlM_eq_ok (fun total other hother =>
      readMemTotal_other (hothers other (List.mem_append_left _ hother)) total) 0
  have hafter : after.foldlM readMemTotal (Int64.ofIntClamp k) =
      .ok (after.foldl (fun total _ => total) (Int64.ofIntClamp k)) :=
    foldlM_eq_ok (fun total other hother =>
      readMemTotal_other (hothers other (List.mem_append_right _ hother)) total) _
  rw [hsplit, List.foldlM_append, hbefore, ok_bind, List.foldlM_cons,
    readMemTotal_of_isMemTotal hline hfits, ok_bind, hafter]
  simp

/-! ## Use and capacity -/

theorem toInt_ofIntClamp {k : Nat} (h : k < 2 ^ 63) : (Int64.ofIntClamp k).toInt = k := by
  have hmin : Int64.minValue.toInt = -2 ^ 63 := rfl
  have hmax : Int64.maxValue.toInt = 2 ^ 63 - 1 := rfl
  exact Int64.toInt_ofIntClamp (by omega) (by omega)

/-- The unit of `/proc/meminfo` is 1024 bytes, and the source takes it for 1000:
the use is within the capacity as long as it stays below the smaller one. -/
theorem nodememory_le_totalmemory_iff (cpuinfo : String) {meminfo : String} {k : Nat}
    (hmeminfo : HasMemTotal meminfo k) (hfits : k * 1024 < 2 ^ 63) {data : Collection}
    {batch : MetricsBatch} {rest : List MetricsBatch} (hdata : data.metricsbatchs = batch :: rest)
    {u : UInt64} (husage : batch.node.metricsPoint.memoryUsageBytes = bytesQuantity u)
    (hu : u.toNat ≤ 1024 * k) :
    ∃ figures, addToPodCustomMetricServer cpuinfo meminfo data = .ok figures ∧
      (figures.nodememory ≤ figures.totalmemory ↔ u.toNat ≤ 1000 * k) := by
  have hloop := foldlM_readMemTotal hmeminfo (by omega)
  have hbatch : index Frame.addToPodCustomMetricServer data.metricsbatchs 0 = .ok batch := by
    rw [hdata]
    rfl
  have hmemory : (bytesQuantity u).getValue.toInt = u.toNat := by
    rw [getValue_bytesQuantity]
    exact readBytes_of_lt (by omega)
  have htotal : (Int64.ofIntClamp k * 1000).toInt = k * 1000 := by
    rw [Int64.toInt_mul, toInt_ofIntClamp (by omega), show (1000 : Int64).toInt = 1000 from rfl]
    exact Int.bmod_eq_of_le (by omega) (by omega)
  unfold addToPodCustomMetricServer
  rw [hloop, ok_bind, hbatch, ok_bind]
  refine ⟨_, rfl, ?_⟩
  dsimp only
  rw [Int64.le_iff_toInt_le, husage, hmemory, htotal]
  omega

/-- A text with 16384 kB. -/
def smallMeminfo : String := "MemTotal:       16384 kB\nMemFree:            8 kB\n"

theorem hasMemTotal_smallMeminfo : HasMemTotal smallMeminfo 16384 := by
  refine ⟨[], "MemTotal:       16384 kB", ["MemFree:            8 kB", ""], by decide, ?_, by decide⟩
  exact ⟨['1', '6', '3', '8', '4'], by decide, by decide, by simp, by decide⟩

/-- A batch whose node uses that many bytes. -/
def nodeUsing (u : UInt64) : MetricsBatch where
  node := { metricsPoint := { memoryUsageBytes := bytesQuantity u } }

theorem nodememory_le_totalmemory_on_smallMeminfo :
    ∃ figures,
      addToPodCustomMetricServer "" smallMeminfo { metricsbatchs := [nodeUsing 4096] } =
        .ok figures ∧
      (figures.nodememory ≤ figures.totalmemory ↔ (4096 : UInt64).toNat ≤ 1000 * 16384) :=
  nodememory_le_totalmemory_iff "" hasMemTotal_smallMeminfo (by decide) rfl rfl (by decide)

/-- All 16384 kB are in use, and the capacity is said to be less. -/
theorem not_nodememory_le_totalmemory :
    ¬ ∀ (cpuinfo meminfo : String) (k : Nat) (data : Collection) (batch : MetricsBatch)
        (rest : List MetricsBatch) (u : UInt64),
      HasMemTotal meminfo k → k * 1024 < 2 ^ 63 → data.metricsbatchs = batch :: rest →
      batch.node.metricsPoint.memoryUsageBytes = bytesQuantity u → u.toNat ≤ 1024 * k →
      ∃ figures, addToPodCustomMetricServer cpuinfo meminfo data = .ok figures ∧
        figures.nodememory ≤ figures.totalmemory := by
  intro h
  rcases h "" smallMeminfo 16384 { metricsbatchs := [nodeUsing 16777216] } (nodeUsing 16777216) []
    16777216 hasMemTotal_smallMeminfo (by decide) rfl rfl (by decide) with ⟨figures, hrun, hle⟩
  have hvalues : figures.nodememory = 16777216 ∧ figures.totalmemory = 16384000 := by
    cases hrun
    exact ⟨rfl, rfl⟩
  rw [hvalues.1, hvalues.2] at hle
  exact absurd hle (by decide)

/-! ## Any two texts -/

/-- The first word of a line. -/
def startsWith (word line : String) : Bool := (fields line).head? = some word

/-- Each line on the memory there is has a second word. -/
def Readable (meminfo : String) : Prop :=
  ∀ line ∈ split '\n' meminfo, startsWith "MemTotal:" line = true → 2 ≤ (fields line).length

/-- The number on such a line. -/
def memTotal (line : String) : Int64 := parseInt ((fields line).getD 1 "")

/-- The processors in `/proc/cpuinfo`. -/
def cores (cpuinfo : String) : Nat := (split '\n' cpuinfo).countP (startsWith "processor")

/-- The number on the last line on the memory there is, or zero. -/
def lastMemTotal (meminfo : String) : Int64 :=
  (((split '\n' meminfo).filter (startsWith "MemTotal:")).getLast?.map memTotal).getD 0

/-- What is returned beside a batch. -/
def figuresOf (cpuinfo meminfo : String) (point : MetricsPoint) : NodeFigures where
  totalcpu := Int64.ofNat (cores cpuinfo) * 1000
  nodecpu := point.cpuUsageNanoCores.milliValue
  totalmemory := lastMemTotal meminfo * 1000
  nodememory := point.memoryUsageBytes.getValue
  nodetotalstorage := point.fsCapacityBytes.getValue
  nodestorage := point.fsUsedBytes.getValue

theorem countProcessor_eq (cpucore : Int64) (line : String) :
    countProcessor cpucore line = if startsWith "processor" line then cpucore + 1 else cpucore := by
  unfold countProcessor startsWith
  cases fields line with
  | nil => rfl
  | cons first rest => simp

/-- The loop over `/proc/cpuinfo` counts the processors. -/
theorem foldl_countProcessor (lines : List String) (cpucore : Int64) :
    lines.foldl countProcessor cpucore =
      cpucore + Int64.ofNat (lines.countP (startsWith "processor")) := by
  induction lines generalizing cpucore with
  | nil => exact (Int64.add_zero cpucore).symm
  | cons line lines ih =>
      rw [List.foldl_cons, ih, countProcessor_eq, List.countP_cons]
      by_cases hprocessor : startsWith "processor" line = true
      · rw [if_pos hprocessor, if_pos hprocessor, Int64.ofNat_add, Int64.add_assoc,
          Int64.add_comm 1]
        rfl
      · rw [if_neg hprocessor, if_neg hprocessor, Nat.add_zero]

/-- A line on the memory is read if it has a second word. -/
theorem readMemTotal_eq {line : String} (hline : startsWith "MemTotal:" line = true)
    (totalmemory : Int64) :
    readMemTotal totalmemory line = if 2 ≤ (fields line).length then .ok (memTotal line)
      else .error ⟨.indexOutOfRange, .addToPodCustomMetricServer⟩ := by
  unfold startsWith at hline
  unfold readMemTotal memTotal
  cases hfields : fields line with
  | nil =>
      rw [hfields] at hline
      cases hline
  | cons first rest =>
      rw [hfields] at hline
      have hfirst : first = "MemTotal:" := by simpa using hline
      dsimp only
      rw [if_pos hfirst]
      cases rest with
      | nil => rfl
      | cons total rest =>
          rw [if_pos (by simp)]
          rfl

/-- The loop over `/proc/meminfo` ends with the last number, unless there is none on
some line. -/
theorem foldlM_readMemTotal_iff (lines : List String) (totalmemory t : Int64) :
    lines.foldlM readMemTotal totalmemory = .ok t ↔
      (∀ line ∈ lines, startsWith "MemTotal:" line = true → 2 ≤ (fields line).length) ∧
        t = ((lines.filter (startsWith "MemTotal:")).getLast?.map memTotal).getD totalmemory := by
  induction lines generalizing totalmemory with
  | nil =>
      rw [List.foldlM_nil]
      constructor
      · intro h
        cases h
        exact ⟨List.forall_mem_nil _, rfl⟩
      · rintro ⟨-, rfl⟩
        rfl
  | cons line lines ih =>
      rw [List.foldlM_cons, List.forall_mem_cons]
      by_cases hline : startsWith "MemTotal:" line = true
      · rw [readMemTotal_eq hline, List.filter_cons_of_pos hline, List.getLast?_cons]
        by_cases hsecond : 2 ≤ (fields line).length
        · rw [if_pos hsecond, ok_bind, ih]
          cases (lines.filter (startsWith "MemTotal:")).getLast? <;> simp [hline, hsecond]
        · rw [if_neg hsecond, error_bind]
          simp [hline, hsecond]
      · have hother : (fields line).head? ≠ some "MemTotal:" := by
          simpa [startsWith] using hline
        rw [readMemTotal_other hother, ok_bind, ih, List.filter_cons_of_neg hline]
        simp [hline]

/-- What the figures are, and when there are any. -/
theorem addToPodCustomMetricServer_iff (cpuinfo meminfo : String) (data : Collection)
    (figures : NodeFigures) :
    addToPodCustomMetricServer cpuinfo meminfo data = .ok figures ↔
      Readable meminfo ∧ ∃ batch rest, data.metricsbatchs = batch :: rest ∧
        figures = figuresOf cpuinfo meminfo batch.node.metricsPoint := by
  have hcores : (split '\n' cpuinfo).foldl countProcessor 0 = Int64.ofNat (cores cpuinfo) := by
    rw [foldl_countProcessor, Int64.zero_add]
    rfl
  unfold addToPodCustomMetricServer
  rw [hcores, bind_eq_ok]
  constructor
  · rintro ⟨totalmemory, hloop, h⟩
    obtain ⟨hreadable, rfl⟩ := (foldlM_readMemTotal_iff _ _ _).mp hloop
    rcases bind_eq_ok.mp h with ⟨batch, hbatch, h⟩
    cases h
    rw [index_eq_ok] at hbatch
    cases hbatches : data.metricsbatchs with
    | nil =>
        rw [hbatches] at hbatch
        cases hbatch
    | cons first rest =>
        rw [hbatches] at hbatch
        cases hbatch
        exact ⟨hreadable, _, _, rfl, rfl⟩
  · rintro ⟨hreadable, batch, rest, hbatches, rfl⟩
    refine ⟨lastMemTotal meminfo, (foldlM_readMemTotal_iff _ _ _).mpr ⟨hreadable, rfl⟩, ?_⟩
    rw [hbatches]
    rfl

end MetricCollector.CustomMetrics
