import MetricCollector.Analyzer.Statistics
import MetricCollector.Analyzer.Pattern
import MetricCollector.Gpumpsmetric.Mapping

/-!
# The points that `Gpumpsmetric` writes

The `podmetric` point of an entry is read back by position in three places: in
the two passes of `GetPodMetric`, and in the collection loop of
`GetPodPattern`.  The positions are the ranks of the keys in all three.

* `podSample_of_podPoint`: the passes parse what was written, over all of
  `int64`.
* `append_of_podPoint`: the collection loop parses every column with
  `ParseFloat`, so it takes the nearest `float64` of an integer.
-/

namespace MetricCollector.Gpumpsmetric

open GoLib Influx Analyzer

/-- The keys of a pod point, in the order of its row. -/
def podColumns : List String :=
  ["UUID", "gpu_mps_cpu", "gpu_mps_memory", "gpu_mps_networkrx", "gpu_mps_networktx",
    "gpu_mps_nodememory", "gpu_mps_pid", "gpu_mps_pod", "gpu_mps_process", "gpu_mps_storage",
    "gpu_mps_uid"]

theorem columns_of_podPoint {uuid : String} {entry : Grpcs.PodMetric} {pt : Point}
    (hpt : podPoint uuid entry = some pt) : pt.columns = podColumns := by
  rw [eq_of_newPoint hpt]
  show ["UUID", "gpu_mps_process", "gpu_mps_memory", "gpu_mps_pid", "gpu_mps_pod",
    "gpu_mps_networkrx", "gpu_mps_networktx", "gpu_mps_storage", "gpu_mps_cpu",
    "gpu_mps_nodememory", "gpu_mps_uid"].insertionSort (· ≤ ·) = _
  decide

/-- The cells at the positions that the readers use. -/
structure PodCells (printFloat : ℚ → String) (entry : Grpcs.PodMetric) (row : List Cell) :
    Prop where
  cpu : row[2]? = some (.number (printFloat entry.podCPU))
  gpuMemory : row[3]? = some (.number (formatInt entry.podGPUMemory))
  networkRx : row[4]? = some (.number (formatInt entry.podNetworkRX))
  networkTx : row[5]? = some (.number (formatInt entry.podNetworkTX))
  memory : row[6]? = some (.number (formatInt entry.podMemory))
  storage : row[10]? = some (.number (formatInt entry.podStorage))

theorem podCells_of_podPoint {uuid : String} {entry : Grpcs.PodMetric} {pt : Point}
    (hpt : podPoint uuid entry = some pt) (printFloat : ℚ → String) (time : Cell) :
    PodCells printFloat entry (selectStar printFloat time pt) := by
  have hcell : ∀ {i k cell}, podColumns[i]? = some k →
      (pt.cells printFloat).lookup k = some cell →
      (selectStar printFloat time pt)[i + 1]? = some cell := by
    intro i k cell hcolumn hlookup
    rw [← columns_of_podPoint hpt] at hcolumn
    exact selectStar_getElem? hcolumn hlookup
  obtain rfl := eq_of_newPoint hpt
  exact {
    cpu := hcell (show podColumns[1]? = some "gpu_mps_cpu" from rfl) rfl
    gpuMemory := hcell (show podColumns[2]? = some "gpu_mps_memory" from rfl) rfl
    networkRx := hcell (show podColumns[3]? = some "gpu_mps_networkrx" from rfl) rfl
    networkTx := hcell (show podColumns[4]? = some "gpu_mps_networktx" from rfl) rfl
    memory := hcell (show podColumns[5]? = some "gpu_mps_nodememory" from rfl) rfl
    storage := hcell (show podColumns[9]? = some "gpu_mps_storage" from rfl) rfl }

/-- The sample of an entry. -/
def podWritten (entry : Grpcs.PodMetric) : PodSample where
  cpu := entry.podCPU
  gpuMemory := entry.podGPUMemory
  networkRx := entry.podNetworkRX
  networkTx := entry.podNetworkTX
  memory := entry.podMemory
  storage := entry.podStorage

/-- The columns of a history to which an entry is added, its integers as `read`
takes them. -/
def patternWritten (read : Int64 → ℚ) (entry : Grpcs.PodMetric) (data : Regression) :
    Regression where
  cpu := data.cpu ++ [entry.podCPU]
  gpuMemory := data.gpuMemory ++ [read entry.podGPUMemory]
  rx := data.rx ++ [read entry.podNetworkRX]
  tx := data.tx ++ [read entry.podNetworkTX]
  memory := data.memory ++ [read entry.podMemory]
  storage := data.storage ++ [read entry.podStorage]

/-- The nearest `float64` of an `int64`. -/
def nearestInt64 (n : Int64) : ℚ := nearestFloat64 n.toInt

/-- An integer is at most 1024 away from it. -/
theorem abs_nearestInt64_sub_le (n : Int64) : |nearestInt64 n - n.toInt| ≤ 1024 := by
  have hlow := n.le_toInt
  have hhigh := n.toInt_lt
  have habs : |n.toInt| < 2 ^ 64 := by
    rw [abs_lt]
    omega
  have hround := abs_nearestFloat64_sub_le_of_lt (q := n.toInt) (e := 64) (by decide)
    (by exact_mod_cast habs)
  exact hround.trans (by norm_num)

section Readers

variable {printFloat : ℚ → String} {entry : Grpcs.PodMetric} {row : List Cell}

theorem podSample_of_podCells (hrow : PodCells printFloat entry row)
    (hcpu : (Cell.number (printFloat entry.podCPU)).parseFloat = entry.podCPU) :
    podSample row = .ok (podWritten entry) := by
  unfold podSample
  rw [index_of_getElem? hrow.cpu, ok_bind, index_of_getElem? hrow.gpuMemory, ok_bind,
    index_of_getElem? hrow.networkRx, ok_bind, index_of_getElem? hrow.networkTx, ok_bind,
    index_of_getElem? hrow.memory, ok_bind, index_of_getElem? hrow.storage, ok_bind, hcpu]
  simp only [Cell.parseInt_formatInt]
  rfl

theorem append_of_podCells (hrow : PodCells printFloat entry row)
    (hcpu : (Cell.number (printFloat entry.podCPU)).parseFloat = entry.podCPU)
    (data : Regression) : data.append row = .ok (patternWritten nearestInt64 entry data) := by
  unfold Regression.append
  rw [index_of_getElem? hrow.cpu, ok_bind, index_of_getElem? hrow.gpuMemory, ok_bind,
    index_of_getElem? hrow.networkRx, ok_bind, index_of_getElem? hrow.networkTx, ok_bind,
    index_of_getElem? hrow.memory, ok_bind, index_of_getElem? hrow.storage, ok_bind, hcpu]
  simp only [Cell.parseFloat_formatInt]
  rfl

end Readers

/-! ## The `podmetric` row -/

/-- What the readers take from a row is the entry, its integers in the
collection loop as `read` takes them. -/
structure PodRowAgrees (read : Int64 → ℚ) (entry : Grpcs.PodMetric) (row : List Cell) : Prop where
  firstPass : ∀ aver : PodMetric,
    overRows podSample PodMetric.add [row] aver = .ok (aver.add (podWritten entry))
  secondPass : ∀ aver : PodMetric,
    overRows podSample PodMetric.deviate [row] aver = .ok (aver.deviate (podWritten entry))
  pattern : ∀ data : Regression, data.append row = .ok (patternWritten read entry data)

/-- A pass over one row takes its sample. -/
theorem overRows_singleton {A S : Type} {sample : List Cell → Exec S} {row : List Cell} {s : S}
    (hsample : sample row = .ok s) (body : A → S → A) (aver : A) :
    overRows sample body [row] aver = .ok (body aver s) := by
  unfold overRows
  rw [List.foldlM_cons, hsample]
  rfl

/-- The two sides of `podmetric` agree in both passes over all of `int64`.  The
collection loop takes the nearest `float64` of an integer, which is the integer
itself up to 53 bits, and never more than 1024 away. -/
theorem podRow_agrees {uuid : String} {entry : Grpcs.PodMetric} {pt : Point}
    (hpt : podPoint uuid entry = some pt) {printFloat : ℚ → String}
    (hcpu : (Cell.number (printFloat entry.podCPU)).parseFloat = entry.podCPU) (time : Cell) :
    PodRowAgrees nearestInt64 entry (selectStar printFloat time pt) ∧
      (∀ n : Int64, |n.toInt| ≤ 2 ^ 53 → nearestInt64 n = n.toInt) ∧
      ∀ n : Int64, |nearestInt64 n - n.toInt| ≤ 1024 := by
  have hrow := podCells_of_podPoint hpt printFloat time
  have hsample := podSample_of_podCells hrow hcpu
  refine ⟨⟨?_, ?_, append_of_podCells hrow hcpu⟩, ?_, abs_nearestInt64_sub_le⟩
  · exact overRows_singleton hsample PodMetric.add
  · exact overRows_singleton hsample PodMetric.deviate
  · intro n hn
    exact nearestFloat64_intCast hn

/-- A pod that uses a quarter of a core and all the memory an `int64` can say. -/
theorem podRow_agrees_on_full_memory :
    ∃ pt, podPoint "GPU-0" { podCPU := 250, podGPUMemory := Int64.maxValue } = some pt ∧
      PodRowAgrees nearestInt64 { podCPU := 250, podGPUMemory := Int64.maxValue }
        (selectStar (fun _ => "250") .null pt) := by
  obtain ⟨pt, hpt⟩ : ∃ pt, podPoint "GPU-0"
      { podCPU := 250, podGPUMemory := Int64.maxValue } = some pt := ⟨_, rfl⟩
  exact ⟨pt, hpt, (podRow_agrees hpt (by decide +kernel) _).1⟩

/-- The collection loop reads the first integer of 54 bits one too low. -/
theorem podRow_rounds_large_memory :
    ∃ pt, podPoint "GPU-0" { podCPU := 250, podGPUMemory := 9007199254740993 } = some pt ∧
      (Cell.number "250").parseFloat = 250 ∧
      ¬PodRowAgrees (fun n => n.toInt) { podCPU := 250, podGPUMemory := 9007199254740993 }
        (selectStar (fun _ => "250") .null pt) := by
  obtain ⟨pt, hpt⟩ : ∃ pt, podPoint "GPU-0"
      { podCPU := 250, podGPUMemory := 9007199254740993 } = some pt := ⟨_, rfl⟩
  have hcpu : (Cell.number "250").parseFloat = 250 := by decide +kernel
  refine ⟨pt, hpt, hcpu, ?_⟩
  intro h
  have hread := append_of_podCells (podCells_of_podPoint hpt (fun _ => "250") .null) hcpu {}
  rw [h.pattern, Except.ok.injEq] at hread
  have hmemory := congrArg Regression.gpuMemory hread
  revert hmemory
  decide +kernel

end MetricCollector.Gpumpsmetric
