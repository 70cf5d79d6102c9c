import MetricCollector.GoLib.Text
import MetricCollector.Server
import Mathlib.Algebra.Order.Ring.Int

/-!
# The first message

`GetInitData` tells a scheduler everything about the node.  The node part of the
message has the UUIDs that `main` listed, and the part for each GPU has the one
that a collection cycle has written into its record.

* `getInitData_eq` is the message, for tables of one length.
* `consistent_iff` says for which collectors its parts agree.
-/

namespace MetricCollector.Server

open GoLib Grpcs

/-! ## The message -/

/-- `maxgpumemory` after the loop. -/
def maxTotal (gpus : List GrpcGPU) : Int64 :=
  gpus.foldl (fun maxgpumemory gpu =>
    if maxgpumemory < gpu.grpcGPUtotal then gpu.grpcGPUtotal else maxgpumemory) 0

/-- A record after its turn: a negative number of processes has been set to zero. -/
def clamped (gpu : GrpcGPU) : GrpcGPU :=
  if gpu.grpcGPUmpscount < 0 then { gpu with grpcGPUmpscount := 0 } else gpu

/-- What `GetInitData` sends. -/
def initMessage (s : Collector) : InitMessage where
  initNode := {
    nodeName := s.node.grpcNodeName
    nodeTotalcpu := s.node.grpcNodetotalCPU
    nodeCpu := s.node.grpcNodeCPU
    gpuCount := s.node.grpcNodeCount
    nodeTotalmemory := s.node.grpcNodeTotalMemory
    nodeMemory := s.node.grpcNodeMemory
    nodeTotalstorage := s.node.grpcNodeTotalStorage
    nodeStorage := s.node.grpcNodeStorage
    gpuUuid := " ".intercalate s.node.grpcNodeUUID
    maxGpuMemory := maxTotal s.node.nodeGPU
    gpu1Index := s.node.nvLinkInfo.map NvLink.gpu1UUID
    gpu2Index := s.node.nvLinkInfo.map NvLink.gpu2UUID
    lanecount := s.node.nvLinkInfo.map fun link => link.countLink.toInt32 }
  initGPU := s.node.nodeGPU.map fun gpu => gpuMessage (clamped gpu)

/-- The loop over the GPUs, up to some of them. -/
theorem gpuTurns_eq (gpus : List GrpcGPU) {n : Nat} (hn : n ≤ gpus.length) :
    ∃ gpus', (List.range n).foldlM gpuTurn (gpus, []) =
        .ok (gpus', (gpus.take n).map fun gpu => gpuMessage (clamped gpu)) ∧
      ∀ i, n ≤ i → gpus'[i]? = gpus[i]? := by
  induction n with
  | zero => exact ⟨gpus, rfl, fun _ _ => rfl⟩
  | succ n ih =>
      obtain ⟨gpus', hloop, hrest⟩ := ih (by omega)
      have hget : gpus[n]? = some gpus[n] := List.getElem?_eq_getElem hn
      have hturn : gpuTurn (gpus', (gpus.take n).map fun gpu => gpuMessage (clamped gpu)) n =
          .ok (gpus'.set n (clamped gpus[n]),
            (gpus.take n).map (fun gpu => gpuMessage (clamped gpu)) ++
              [gpuMessage (clamped gpus[n])]) := by
        unfold gpuTurn
        rw [index_of_getElem? ((hrest n le_rfl).trans hget), ok_bind]
        rfl
      refine ⟨gpus'.set n (clamped gpus[n]), ?_, ?_⟩
      · rw [foldlM_range_succ, hloop, ok_bind, hturn, ← List.take_append_getElem hn,
          List.map_append]
        rfl
      · intro i hi
        rw [List.getElem?_set_ne (by omega)]
        exact hrest i (by omega)

/-- A collector with a record for each UUID answers. -/
theorem getInitData_eq {s : Collector} (h : s.gpuuuid.length = s.node.nodeGPU.length) :
    ∃ s', getInitData s = .ok (initMessage s, s') := by
  have hmax : (List.range s.gpuuuid.length).foldlM (maxTurn s.node.nodeGPU) 0 =
      .ok (maxTotal s.node.nodeGPU) := by
    rw [h]
    exact foldlM_index _ _ _ _
  obtain ⟨gpus', hloop, -⟩ := gpuTurns_eq s.node.nodeGPU le_rfl
  rw [List.take_length] at hloop
  unfold getInitData
  rw [hmax, ok_bind, h, hloop]
  exact ⟨_, rfl⟩

/-! ## What a scheduler expects of it -/

/-- The parts of the message agree. -/
structure Consistent (message : InitMessage) : Prop where
  gpuCount : message.initNode.gpuCount = Int64.ofNat message.initGPU.length
  gpuUuid : message.initGPU ≠ [] →
    split ' ' message.initNode.gpuUuid = message.initGPU.map GPUMessage.gpuUuid
  maxGpuMemory : message.initNode.maxGpuMemory.toInt =
    ((message.initGPU.map fun gpu => gpu.gpuTotal.toNat).foldr max 0 : Nat)
  gpu1Index : ∀ uuid ∈ message.initNode.gpu1Index, uuid ∈ message.initGPU.map GPUMessage.gpuUuid
  gpu2Index : ∀ uuid ∈ message.initNode.gpu2Index, uuid ∈ message.initGPU.map GPUMessage.gpuUuid

/-- What `main` has listed: as many UUIDs as there are records, without blanks,
their number, and links between GPUs on the list. -/
structure Listed (s : Collector) : Prop where
  count : s.node.grpcNodeCount = Int64.ofNat s.node.nodeGPU.length
  length : s.node.grpcNodeUUID.length = s.node.nodeGPU.length
  blankFree : ∀ uuid ∈ s.node.grpcNodeUUID, ' ' ∉ uuid.toList
  links : ∀ link ∈ s.node.nvLinkInfo,
    link.gpu1UUID ∈ s.node.grpcNodeUUID ∧ link.gpu2UUID ∈ s.node.grpcNodeUUID

@[simp] theorem clamped_uuid (gpu : GrpcGPU) : (clamped gpu).grpcGPUUUID = gpu.grpcGPUUUID := by
  unfold clamped
  split_ifs <;> rfl

@[simp] theorem clamped_total (gpu : GrpcGPU) : (clamped gpu).grpcGPUtotal = gpu.grpcGPUtotal := by
  unfold clamped
  split_ifs <;> rfl

theorem initGPU_uuids (s : Collector) :
    (initMessage s).initGPU.map GPUMessage.gpuUuid = s.node.nodeGPU.map GrpcGPU.grpcGPUUUID := by
  show (s.node.nodeGPU.map _).map _ = _
  rw [List.map_map]
  exact List.map_congr_left fun gpu _ => clamped_uuid gpu

/-- The UUIDs of the node part are the ones in the records exactly when the
records have those that `main` listed. -/
theorem uuids_agree_iff {s : Collector} (h : Listed s) :
    ((initMessage s).initGPU ≠ [] → split ' ' (initMessage s).initNode.gpuUuid =
        (initMessage s).initGPU.map GPUMessage.gpuUuid) ↔
      s.node.nodeGPU.map GrpcGPU.grpcGPUUUID = s.node.grpcNodeUUID := by
  have hlength := h.length
  rw [initGPU_uuids]
  by_cases hempty : s.node.nodeGPU = []
  · have hnone : s.node.grpcNodeUUID = [] := by
      rw [← List.length_eq_zero_iff, hlength, hempty]
      rfl
    have hsent : (initMessage s).initGPU = [] := by
      show s.node.nodeGPU.map _ = []
      rw [hempty]
      rfl
    rw [hempty, hnone]
    exact ⟨fun _ => rfl, fun _ hne => absurd hsent hne⟩
  · have hsome : s.node.grpcNodeUUID ≠ [] := by
      intro hnone
      rw [hnone] at hlength
      exact hempty (List.length_eq_zero_iff.mp hlength.symm)
    have hsent : (initMessage s).initGPU ≠ [] := by
      show s.node.nodeGPU.map _ ≠ []
      simpa using hempty
    have hsplit : split ' ' (initMessage s).initNode.gpuUuid = s.node.grpcNodeUUID :=
      split_intercalate h.blankFree hsome
    rw [hsplit]
    exact ⟨fun hagree => (hagree hsent).symm, fun hagree _ => hagree.symm⟩

/-! ## The largest memory -/

/-- `uint64(total)`. -/
theorem toNat_toUInt64 (total : Int64) :
    (total.toUInt64.toNat : Int) =
      if 0 ≤ total.toInt then total.toInt else total.toInt + 2 ^ 64 := by
  have hbits : total.toInt = _ := BitVec.toInt_eq_toNat_cond total.toBitVec
  have hlt : total.toBitVec.toNat < 2 ^ 64 := total.toBitVec.isLt
  show (total.toBitVec.toNat : Int) = _
  split_ifs at hbits ⊢ <;> omega

theorem le_foldr_max {ns : List Nat} {n : Nat} (h : n ∈ ns) : n ≤ ns.foldr max 0 := by
  induction ns with
  | nil => cases h
  | cons m ns ih =>
      rw [List.foldr_cons]
      rcases List.mem_cons.mp h with rfl | h
      · exact le_max_left _ _
      · exact (ih h).trans (le_max_right _ _)

/-- Over totals that are not negative the loop finds the largest. -/
theorem toInt_maxTotal {gpus : List GrpcGPU} (h : ∀ gpu ∈ gpus, 0 ≤ gpu.grpcGPUtotal) :
    (maxTotal gpus).toInt =
      ((gpus.map fun gpu => gpu.grpcGPUtotal.toUInt64.toNat).foldr max 0 : Nat) := by
  have hfrom : ∀ maxgpumemory : Int64, 0 ≤ maxgpumemory.toInt →
      (gpus.foldl (fun maxgpumemory gpu =>
        if maxgpumemory < gpu.grpcGPUtotal then gpu.grpcGPUtotal else maxgpumemory)
          maxgpumemory).toInt =
        max maxgpumemory.toInt
          ((gpus.map fun gpu => gpu.grpcGPUtotal.toUInt64.toNat).foldr max 0 : Nat) := by
    induction gpus with
    | nil =>
        intro maxgpumemory hnonneg
        exact (max_eq_left hnonneg).symm
    | cons gpu gpus ih =>
        intro maxgpumemory hnonneg
        have htotal : 0 ≤ gpu.grpcGPUtotal.toInt :=
          Int64.le_iff_toInt_le.mp (h gpu List.mem_cons_self)
        have hnat := toNat_toUInt64 gpu.grpcGPUtotal
        rw [if_pos htotal] at hnat
        have hrest := ih fun gpu' hgpu' => h gpu' (List.mem_cons_of_mem _ hgpu')
        rw [List.foldl_cons, List.map_cons, List.foldr_cons, Nat.cast_max, hnat, ← max_assoc]
        by_cases hlt : maxgpumemory < gpu.grpcGPUtotal
        · have hlt' := Int64.lt_iff_toInt_lt.mp hlt
          rw [if_pos hlt, hrest _ htotal, max_eq_right hlt'.le]
        · have hle := Int64.le_iff_toInt_le.mp (Int64.not_lt.mp hlt)
          rw [if_neg hlt, hrest _ hnonneg, max_eq_left hle]
  exact (hfrom 0 le_rfl).trans (max_eq_right (Int.natCast_nonneg _))

/-- The maximum of the node part is that of the GPUs exactly when no total is
negative: `GpuTotal` is not signed. -/
theorem maxTotal_agrees_iff (s : Collector) :
    (initMessage s).initNode.maxGpuMemory.toInt =
        (((initMessage s).initGPU.map fun gpu => gpu.gpuTotal.toNat).foldr max 0 : Nat) ↔
      ∀ gpu ∈ s.node.nodeGPU, 0 ≤ gpu.grpcGPUtotal := by
  have htotals : (initMessage s).initGPU.map (fun gpu => gpu.gpuTotal.toNat) =
      s.node.nodeGPU.map fun gpu => gpu.grpcGPUtotal.toUInt64.toNat := by
    show (s.node.nodeGPU.map _).map _ = _
    rw [List.map_map]
    refine List.map_congr_left fun gpu _ => ?_
    show (clamped gpu).grpcGPUtotal.toUInt64.toNat = _
    rw [clamped_total]
  rw [htotals]
  constructor
  · intro hmax gpu hgpu
    by_contra hneg
    have hneg' : ¬0 ≤ gpu.grpcGPUtotal.toInt := fun h => hneg (Int64.le_iff_toInt_le.mpr h)
    have hnat := toNat_toUInt64 gpu.grpcGPUtotal
    rw [if_neg hneg'] at hnat
    have hlow := Int64.le_toInt gpu.grpcGPUtotal
    have hhigh := Int64.toInt_lt (maxTotal s.node.nodeGPU)
    have hle := le_foldr_max (List.mem_map.mpr ⟨gpu, hgpu, rfl⟩ :
      gpu.grpcGPUtotal.toUInt64.toNat ∈
        s.node.nodeGPU.map fun gpu => gpu.grpcGPUtotal.toUInt64.toNat)
    have hmax' : (maxTotal s.node.nodeGPU).toInt = _ := hmax
    omega
  · exact toInt_maxTotal

/-- The parts of the message agree exactly when every record has the UUID that
`main` listed for it, and no total is negative. -/
theorem consistent_iff {s : Collector} (h : Listed s) :
    Consistent (initMessage s) ↔
      s.node.nodeGPU.map GrpcGPU.grpcGPUUUID = s.node.grpcNodeUUID ∧
        ∀ gpu ∈ s.node.nodeGPU, 0 ≤ gpu.grpcGPUtotal := by
  constructor
  · intro hconsistent
    exact ⟨(uuids_agree_iff h).mp hconsistent.gpuUuid,
      (maxTotal_agrees_iff s).mp hconsistent.maxGpuMemory⟩
  · intro hagree
    have hlinks : ∀ {f : NvLink → String}, (∀ link ∈ s.node.nvLinkInfo, f link ∈ s.node.grpcNodeUUID) →
        ∀ uuid ∈ s.node.nvLinkInfo.map f, uuid ∈ (initMessage s).initGPU.map GPUMessage.gpuUuid := by
      intro f hf uuid huuid
      obtain ⟨link, hlink, rfl⟩ := List.mem_map.mp huuid
      rw [initGPU_uuids, hagree.1]
      exact hf link hlink
    refine ⟨?_, (uuids_agree_iff h).mpr hagree.1, (maxTotal_agrees_iff s).mpr hagree.2,
      hlinks fun link hlink => (h.links link hlink).1, hlinks fun link hlink => (h.links link hlink).2⟩
    show s.node.grpcNodeCount = Int64.ofNat (s.node.nodeGPU.map _).length
    rw [List.length_map]
    exact h.count

end MetricCollector.Server
