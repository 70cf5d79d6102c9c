import MetricCollector.GoLib.FirstSight
import MetricCollector.Nvlink.Pairs

/-!
# What is listed, whatever the driver answers

The lane loop keeps its record as it goes.  What it lists in the end can be said at
once: the bus IDs behind the lanes up to the first gap, each where it comes up first, if
the GPU that the driver finds there has an index above that lane, and each with all the
lanes that lead to it.

* `Recorded` is the invariant of the loop, and `Recorded.addLane` one lane.
* `nvlinkStatus_links` is one GPU.
* `getNvlinkInfo_eq` is the node, and `getNvlinkInfo_widths` adds up the lanes of its
  GPUs.
-/

namespace MetricCollector.Nvlink

open GoLib Grpcs Storage

variable {Device : Type}

/-- The bus IDs behind the lanes of a GPU, up to the first lane with nothing behind it. -/
def remotes (nvml : Nvml Device) (device : Device) : List BusID :=
  leading ((List.range maxLanes).map fun j =>
    (nvml.getNvLinkRemotePciInfo device j).map fun info => busString info.busId)

/-- The GPU with a bus ID, if its index is above a lane. -/
def beyond (nvml : Nvml Device) (lane : Nat) (remote : BusID) : Option Device :=
  (nvml.deviceGetHandleByPciBusId remote).filter fun p2pDevice => lane < nvml.getIndex p2pDevice

/-- The links of a GPU. -/
def linksFrom (nvml : Nvml Device) (device : Device) : List NvLink :=
  (firstSights (beyond nvml) (remotes nvml device)).map fun sight => {
    gpu1UUID := nvml.getUUID device
    gpu2UUID := nvml.getUUID sight.2
    countLink := Int64.ofNat ((remotes nvml device).count sight.1) }

/-- The node with more links. -/
def addLinks (node : GrpcNode) (links : List NvLink) : GrpcNode :=
  { node with nvLinkInfo := node.nvLinkInfo ++ links }

/-! ## The lane loop -/

section Lanes

variable {nvml : Nvml Device} {device : Device} {seen : List BusID} {status : NvlinkStatus}

/-- The record after lanes behind which these bus IDs were found. -/
structure Recorded (nvml : Nvml Device) (device : Device) (seen : List BusID)
    (status : NvlinkStatus) : Prop where
  uuid : status.uuid = nvml.getUUID device
  p2pBusID : status.p2pBusID = (firstSights (beyond nvml) seen).map Prod.fst
  p2pUUID : status.p2pUUID = (firstSights (beyond nvml) seen).map fun sight =>
    nvml.getUUID sight.2
  lanes : ∀ remote, status.lanes remote =
    if remote ∈ status.p2pBusID then some (Int64.ofNat (seen.count remote)) else none

theorem beyond_eq_some {lane : Nat} {remote : BusID} {p2pDevice : Device} :
    beyond nvml lane remote = some p2pDevice ↔
      nvml.deviceGetHandleByPciBusId remote = some p2pDevice ∧ lane < nvml.getIndex p2pDevice := by
  unfold beyond
  rw [Option.filter_eq_some_iff, decide_eq_true_iff]

/-- What is not above a lane is not above a later one. -/
theorem beyond_mono {lane lane' : Nat} (hle : lane ≤ lane') {remote : BusID}
    (h : beyond nvml lane remote = none) : beyond nvml lane' remote = none := by
  by_contra hsome
  obtain ⟨p2pDevice, hbeyond⟩ := Option.ne_none_iff_exists'.mp hsome
  obtain ⟨hhandle, hlt⟩ := beyond_eq_some.mp hbeyond
  rw [beyond_eq_some.mpr ⟨hhandle, by omega⟩] at h
  cases h

/-- Without an entry for the bus ID, a lane adds what is beyond it. -/
theorem addLane_of_none {j : Nat} {remote : BusID} (hlanes : status.lanes remote = none) :
    addLane nvml device j remote status =
      match beyond nvml j remote with
      | none => status
      | some p2pDevice => { status with
          lanes := Function.update status.lanes remote (some 1)
          p2pDeviceType := status.p2pDeviceType ++ [nvml.getNvLinkRemoteDeviceType device j]
          p2pUUID := status.p2pUUID ++ [nvml.getUUID p2pDevice]
          p2pBusID := status.p2pBusID ++ [remote] } := by
  unfold addLane beyond
  rw [hlanes]
  cases nvml.deviceGetHandleByPciBusId remote with
  | none => rfl
  | some p2pDevice =>
      dsimp only
      rw [Option.filter_some]
      by_cases hlt : j < nvml.getIndex p2pDevice
      · rw [if_pos hlt, if_pos (by simpa using hlt)]
      · rw [if_neg hlt, if_neg (by simpa using hlt)]

/-- The count for another bus ID. -/
theorem count_append_other {remote other : BusID} (h : other ≠ remote) :
    (seen ++ [remote]).count other = seen.count other := by
  rw [List.count_append, List.count_singleton, if_neg (by simpa using Ne.symm h), Nat.add_zero]

/-- A lane that leads to a bus ID on record counts for it. -/
theorem Recorded.counted (h : Recorded nvml device seen status) {remote : BusID}
    (hmem : remote ∈ status.p2pBusID) :
    Recorded nvml device (seen ++ [remote])
      (addLane nvml device seen.length remote status) := by
  have hseen : remote ∈ seen := by
    have hkey := hmem
    rw [h.p2pBusID] at hkey
    exact (mem_map_fst_firstSights.mp hkey).1
  have hlanes := h.lanes remote
  rw [if_pos hmem] at hlanes
  unfold addLane
  rw [hlanes]
  dsimp only
  refine ⟨h.uuid, ?_, ?_, ?_⟩
  · rw [firstSights_of_mem hseen]
    exact h.p2pBusID
  · rw [firstSights_of_mem hseen]
    exact h.p2pUUID
  · intro other
    dsimp only
    by_cases hother : other = remote
    · subst hother
      have hcount : (seen ++ [other]).count other = seen.count other + 1 := by simp
      rw [Function.update_self, if_pos hmem, hcount, Int64.ofNat_add]
      rfl
    · rw [Function.update_of_ne hother, h.lanes other, count_append_other hother]

/-- One that leads to a bus ID that was passed over passes it over again. -/
theorem Recorded.passed (h : Recorded nvml device seen status) {remote : BusID}
    (hseen : remote ∈ seen) (hmem : remote ∉ status.p2pBusID) :
    Recorded nvml device (seen ++ [remote])
      (addLane nvml device seen.length remote status) := by
  obtain ⟨lane, hlane, hrefused⟩ := exists_refused hseen (h.p2pBusID ▸ hmem)
  have hnow := beyond_mono hlane.le hrefused
  have hlanes := h.lanes remote
  rw [if_neg hmem] at hlanes
  rw [addLane_of_none hlanes, hnow]
  refine ⟨h.uuid, ?_, ?_, ?_⟩
  · rw [firstSights_of_mem hseen]
    exact h.p2pBusID
  · rw [firstSights_of_mem hseen]
    exact h.p2pUUID
  · intro other
    rw [h.lanes other]
    by_cases hother : other = remote
    · rw [hother, if_neg hmem, if_neg hmem]
    · rw [count_append_other hother]

/-- One that leads to a new bus ID puts it on record if there is a GPU beyond. -/
theorem Recorded.fresh (h : Recorded nvml device seen status) {remote : BusID}
    (hseen : remote ∉ seen) :
    Recorded nvml device (seen ++ [remote])
      (addLane nvml device seen.length remote status) := by
  have hmem : remote ∉ status.p2pBusID := by
    rw [h.p2pBusID]
    exact fun hkey => hseen (mem_map_fst_firstSights.mp hkey).1
  have hcount : (seen ++ [remote]).count remote = 1 := by
    rw [List.count_append, List.count_eq_zero.mpr hseen]
    simp
  have hlanes := h.lanes remote
  rw [if_neg hmem] at hlanes
  rw [addLane_of_none hlanes]
  cases hbeyond : beyond nvml seen.length remote with
  | none =>
      refine ⟨h.uuid, ?_, ?_, ?_⟩
      · rw [firstSights_of_not_mem hseen, hbeyond]
        simpa using h.p2pBusID
      · rw [firstSights_of_not_mem hseen, hbeyond]
        simpa using h.p2pUUID
      · intro other
        rw [h.lanes other]
        by_cases hother : other = remote
        · rw [hother, if_neg hmem, if_neg hmem]
        · rw [count_append_other hother]
  | some p2pDevice =>
      dsimp only
      refine ⟨h.uuid, ?_, ?_, ?_⟩
      · rw [firstSights_of_not_mem hseen, hbeyond, List.map_append]
        exact congrArg (· ++ [remote]) h.p2pBusID
      · rw [firstSights_of_not_mem hseen, hbeyond, List.map_append]
        exact congrArg (· ++ [nvml.getUUID p2pDevice]) h.p2pUUID
      · intro other
        dsimp only
        by_cases hother : other = remote
        · rw [hother, Function.update_self, if_pos (by simp), hcount]
          rfl
        · have hkey : other ∈ status.p2pBusID ++ [remote] ↔ other ∈ status.p2pBusID := by
            simp [hother]
          rw [Function.update_of_ne hother, h.lanes other, count_append_other hother,
            if_congr hkey rfl rfl]

/-- One lane keeps the record. -/
theorem Recorded.addLane (h : Recorded nvml device seen status) (remote : BusID) :
    Recorded nvml device (seen ++ [remote])
      (addLane nvml device seen.length remote status) := by
  by_cases hseen : remote ∈ seen
  · by_cases hmem : remote ∈ status.p2pBusID
    · exact h.counted hmem
    · exact h.passed hseen hmem
  · exact h.fresh hseen

/-- The loop from a lane on. -/
theorem Recorded.scanLanes (h : Recorded nvml device seen status) (k : Nat) :
    Recorded nvml device (seen ++ leading ((List.range' seen.length k).map fun j =>
        (nvml.getNvLinkRemotePciInfo device j).map fun info => busString info.busId))
      (scanLanes nvml device (List.range' seen.length k) status) := by
  induction k generalizing seen status with
  | zero => simpa [Nvlink.scanLanes] using h
  | succ k ih =>
      rw [List.range'_succ, List.map_cons, Nvlink.scanLanes]
      cases hremote : nvml.getNvLinkRemotePciInfo device seen.length with
      | none => simpa using h
      | some info =>
          have hrest := ih (h.addLane (busString info.busId))
          rw [List.length_append, List.length_singleton, List.append_assoc,
            List.singleton_append] at hrest
          exact hrest

end Lanes

/-! ## The links -/

section Links

variable (nvml : Nvml Device)

/-- Up to position 31 there is a byte for the GPU's own bus ID. -/
theorem exists_ownBusID (busId : Vector Int8 32) {i : Nat} (hi : i < 32) :
    ∃ busID, ownBusID busId i = .ok busID := by
  have hlt : i < busId.toList.length := by rwa [Vector.length_toList]
  obtain ⟨byte, hbyte⟩ := exists_index_of_lt Frame.getNvlinkInfo hlt
  unfold ownBusID ownByte
  apply exists_mapM_eq_ok
  intro x _
  exact ⟨byte.toUInt8, by rw [hbyte, ok_bind, pure_eq_ok]⟩

/-- The record of a GPU lists its links. -/
theorem linksOf_recorded {device : Device} {status : NvlinkStatus}
    (h : Recorded nvml device (remotes nvml device) status) :
    linksOf status = .ok (linksFrom nvml device) := by
  have hlength : status.p2pUUID.length = (linksFrom nvml device).length := by
    rw [h.p2pUUID, List.length_map, linksFrom, List.length_map]
  rw [linksOf, hlength]
  apply mapM_range_eq_ok
  intro j link hlink
  unfold linksFrom at hlink
  rw [List.getElem?_map, Option.map_eq_some_iff] at hlink
  obtain ⟨sight, hsight, rfl⟩ := hlink
  have huuid : index Frame.getNvlinkInfo status.p2pUUID j = .ok (nvml.getUUID sight.2) := by
    rw [index_eq_ok, h.p2pUUID, List.getElem?_map, hsight, Option.map_some]
  have hbus : index Frame.getNvlinkInfo status.p2pBusID j = .ok sight.1 := by
    rw [index_eq_ok, h.p2pBusID, List.getElem?_map, hsight, Option.map_some]
  have hmem : sight.1 ∈ status.p2pBusID := List.mem_of_getElem? (index_eq_ok.mp hbus)
  rw [linkAt, huuid, ok_bind, hbus, ok_bind, h.lanes, if_pos hmem, h.uuid]
  rfl

/-- A GPU that has a byte adds its links to the node. -/
theorem listLinks_of_lt (node : GrpcNode) {i : Nat} (hi : i < 32) :
    listLinks nvml node i =
      .ok (addLinks node (linksFrom nvml (nvml.deviceGetHandleByIndex i))) := by
  obtain ⟨busID, hbusID⟩ := exists_ownBusID
    (nvml.getPciInfo (nvml.deviceGetHandleByIndex i)).busId hi
  have hstart : Recorded nvml (nvml.deviceGetHandleByIndex i) []
      { uuid := nvml.getUUID (nvml.deviceGetHandleByIndex i), busID } :=
    ⟨rfl, rfl, rfl, fun remote => (if_neg (List.not_mem_nil)).symm⟩
  have hrecorded := hstart.scanLanes maxLanes
  rw [List.length_nil, ← List.range_eq_range', List.nil_append] at hrecorded
  unfold listLinks nvlinkStatus
  dsimp only
  rw [hbusID, ok_bind, pure_eq_ok, ok_bind, linksOf_recorded nvml hrecorded]
  rfl

/-- The turns of the first GPUs, up to the last one that has a byte. -/
theorem foldlM_listLinks (node : GrpcNode) {n : Nat} (hn : n ≤ 32) :
    (List.range n).foldlM (listLinks nvml) node =
      .ok (addLinks node ((List.range n).flatMap fun i =>
        linksFrom nvml (nvml.deviceGetHandleByIndex i))) := by
  induction n with
  | zero => simp [addLinks]
  | succ n ih =>
      rw [foldlM_range_succ, ih (by omega), ok_bind, listLinks_of_lt nvml _ (by omega),
        List.range_succ, List.flatMap_append, List.flatMap_singleton]
      simp only [addLinks, List.append_assoc]

/-- The turn of the GPU with index 32 reads behind the end of its bus ID. -/
theorem foldlM_listLinks_of_lt (node : GrpcNode) {n : Nat} (hn : 32 < n) :
    (List.range n).foldlM (listLinks nvml) node = .error ⟨.indexOutOfRange, .getNvlinkInfo⟩ := by
  have hcount : 32 + (n - 33 + 1) = n := by omega
  have hrange := @List.range'_append_1 0 32 (n - 33 + 1)
  rw [hcount, ← List.range_eq_range', ← List.range_eq_range', List.range'_succ] at hrange
  rw [← hrange, List.foldlM_append, foldlM_listLinks nvml node le_rfl, ok_bind,
    List.foldlM_cons]
  unfold listLinks
  rw [nvlinkStatus_of_le nvml (by omega), error_bind, error_bind]

/-- `GetNvlinkInfo` on any answers of the driver: with at most 32 GPUs the node lists the
links of each, in their order, and with more it faults. -/
theorem getNvlinkInfo_eq (node : GrpcNode) :
    getNvlinkInfo nvml node =
      match nvml.deviceGetCount with
      | none => .ok node
      | some count =>
          if count ≤ 32 then .ok (addLinks node ((List.range count).flatMap fun i =>
            linksFrom nvml (nvml.deviceGetHandleByIndex i)))
          else .error ⟨.indexOutOfRange, .getNvlinkInfo⟩ := by
  unfold getNvlinkInfo
  cases nvml.deviceGetCount with
  | none => rfl
  | some count =>
      dsimp only
      by_cases hle : count ≤ 32
      · rw [if_pos hle, foldlM_listLinks nvml node hle]
      · rw [if_neg hle, foldlM_listLinks_of_lt nvml node (by omega)]

/-- A GPU has no more lanes up to the first gap than it has lanes. -/
theorem length_remotes_le (device : Device) : (remotes nvml device).length ≤ maxLanes := by
  refine (length_leading_le _).trans_eq ?_
  rw [List.length_map, List.length_range]

/-- The width of a link is the number of lanes that lead to its other end. -/
theorem toInt_count_remotes (device : Device) (remote : BusID) :
    (Int64.ofNat ((remotes nvml device).count remote)).toInt =
      (remotes nvml device).count remote := by
  have hle : (remotes nvml device).count remote ≤ maxLanes :=
    List.count_le_length.trans (length_remotes_le nvml device)
  unfold maxLanes at hle
  exact Int64.toInt_ofNat_of_lt (by omega)

/-- A link has a lane. -/
theorem one_le_of_mem_linksFrom {device : Device} {link : NvLink}
    (hlink : link ∈ linksFrom nvml device) : 1 ≤ link.countLink.toInt := by
  obtain ⟨sight, hsight, rfl⟩ := List.mem_map.mp hlink
  have hone : 1 ≤ (remotes nvml device).count sight.1 :=
    List.one_le_count_iff.mpr (mem_firstSights.mp hsight).1
  show 1 ≤ (Int64.ofNat _).toInt
  rw [toInt_count_remotes]
  exact_mod_cast hone

/-- No lane is counted for two links. -/
theorem sum_linksFrom_le (device : Device) :
    ((linksFrom nvml device).map fun link => link.countLink.toInt).sum ≤ maxLanes := by
  have hnodup : ((firstSights (beyond nvml) (remotes nvml device)).map Prod.fst).Nodup :=
    nodup_firstSights
  have hsum := sum_count_le hnodup (remotes nvml device)
  have hcast : ∀ sights : List (BusID × Device),
      (sights.map fun sight => ((remotes nvml device).count sight.1 : Int)).sum =
        ((sights.map fun sight => (remotes nvml device).count sight.1).sum : Nat) := by
    intro sights
    induction sights with
    | nil => rfl
    | cons sight sights ih =>
        rw [List.map_cons, List.map_cons, List.sum_cons, List.sum_cons, ih, Nat.cast_add]
  unfold linksFrom
  rw [List.map_map]
  simp only [Function.comp_def, toInt_count_remotes]
  rw [List.map_map] at hsum
  rw [hcast]
  exact_mod_cast hsum.trans (length_remotes_le nvml device)

/-- Of the links of a GPU, those from a UUID are all or none. -/
theorem filter_linksFrom (device : Device) (uuid : String) :
    (linksFrom nvml device).filter (fun link => link.gpu1UUID = uuid) =
      if nvml.getUUID device = uuid then linksFrom nvml device else [] := by
  unfold linksFrom
  by_cases huuid : nvml.getUUID device = uuid
  · rw [if_pos huuid, List.filter_eq_self]
    intro link hlink
    obtain ⟨sight, _, rfl⟩ := List.mem_map.mp hlink
    exact decide_eq_true huuid
  · rw [if_neg huuid, List.filter_eq_nil_iff]
    intro link hlink
    obtain ⟨sight, _, rfl⟩ := List.mem_map.mp hlink
    simpa using huuid

/-- With distinct UUIDs, the links from a UUID are those of one GPU. -/
theorem filter_flatMap_linksFrom {count : Nat}
    (huuid : ∀ i < count, ∀ j < count,
      nvml.getUUID (nvml.deviceGetHandleByIndex i) =
        nvml.getUUID (nvml.deviceGetHandleByIndex j) → i = j) (uuid : String) :
    ∀ n ≤ count,
      let links := ((List.range n).flatMap fun i =>
        linksFrom nvml (nvml.deviceGetHandleByIndex i)).filter fun link => link.gpu1UUID = uuid
      links = [] ∨ ∃ i < n, nvml.getUUID (nvml.deviceGetHandleByIndex i) = uuid ∧
        links = linksFrom nvml (nvml.deviceGetHandleByIndex i) := by
  intro n
  induction n with
  | zero =>
      intro _
      exact Or.inl rfl
  | succ n ih =>
      intro hn
      dsimp only at ih ⊢
      rw [List.range_succ, List.flatMap_append, List.flatMap_singleton, List.filter_append,
        filter_linksFrom]
      by_cases hown : nvml.getUUID (nvml.deviceGetHandleByIndex n) = uuid
      · rw [if_pos hown]
        cases ih (by omega) with
        | inl hnone =>
            rw [hnone, List.nil_append]
            exact Or.inr ⟨n, by omega, hown, rfl⟩
        | inr hone =>
            obtain ⟨i, hi, hother, -⟩ := hone
            have heq := huuid i (by omega) n (by omega) (hother.trans hown.symm)
            omega
      · rw [if_neg hown, List.append_nil]
        cases ih (by omega) with
        | inl hnone => exact Or.inl hnone
        | inr hone =>
            obtain ⟨i, hi, hother, hlinks⟩ := hone
            exact Or.inr ⟨i, by omega, hother, hlinks⟩

/-- On a node whose GPUs have distinct UUIDs, no link is listed without a lane, and no
GPU with more lanes than it has. -/
theorem getNvlinkInfo_widths {node node' : GrpcNode} {count : Nat}
    (hcount : nvml.deviceGetCount = some count)
    (huuid : ∀ i < count, ∀ j < count,
      nvml.getUUID (nvml.deviceGetHandleByIndex i) =
        nvml.getUUID (nvml.deviceGetHandleByIndex j) → i = j)
    (hrun : getNvlinkInfo nvml { node with nvLinkInfo := [] } = .ok node') :
    (∀ link ∈ node'.nvLinkInfo, 1 ≤ link.countLink.toInt) ∧
      ∀ uuid, ((node'.nvLinkInfo.filter fun link => link.gpu1UUID = uuid).map fun link =>
        link.countLink.toInt).sum ≤ maxLanes := by
  unfold getNvlinkInfo at hrun
  rw [hcount] at hrun
  dsimp only at hrun
  by_cases hle : count ≤ 32
  · rw [foldlM_listLinks nvml _ hle, Except.ok.injEq] at hrun
    subst hrun
    unfold addLinks
    rw [List.nil_append]
    constructor
    · intro link hlink
      obtain ⟨i, _, hmem⟩ := List.mem_flatMap.mp hlink
      exact one_le_of_mem_linksFrom nvml hmem
    · intro uuid
      cases filter_flatMap_linksFrom nvml huuid uuid count le_rfl with
      | inl hnone =>
          rw [hnone, List.map_nil, List.sum_nil]
          omega
      | inr hone =>
          obtain ⟨i, _, _, hone⟩ := hone
          rw [hone]
          exact sum_linksFrom_le nvml _
  · rw [foldlM_listLinks_of_lt nvml _ (by omega)] at hrun
    cases hrun

/-- Two GPUs with one lane between them. -/
theorem getNvlinkInfo_widths_on_onlyTwo :
    ∃ node', getNvlinkInfo (indexedNvml 2 onlyTwo) { ({} : GrpcNode) with nvLinkInfo := [] } =
        .ok node' ∧
      (∀ link ∈ node'.nvLinkInfo, 1 ≤ link.countLink.toInt) ∧
      ∀ uuid, ((node'.nvLinkInfo.filter fun link => link.gpu1UUID = uuid).map fun link =>
        link.countLink.toInt).sum ≤ maxLanes := by
  have hrun : getNvlinkInfo (indexedNvml 2 onlyTwo)
      { ({} : GrpcNode) with nvLinkInfo := [] } = .ok { nvLinkInfo := [⟨"", "g", 1⟩] } := by
    decide
  have huuid : ∀ i < 2, ∀ j < 2, (indexedNvml 2 onlyTwo).getUUID i =
      (indexedNvml 2 onlyTwo).getUUID j → i = j := by
    decide
  exact ⟨_, hrun, getNvlinkInfo_widths (indexedNvml 2 onlyTwo) rfl huuid hrun⟩

end Links

end MetricCollector.Nvlink
