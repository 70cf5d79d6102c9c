import MetricCollector.Grpcs
import MetricCollector.Storage
import Mathlib.Data.List.FinRange
import Mathlib.Logic.Function.Basic

/-!
# NVLink enumeration

`GetNvlinkInfo` of `cmd/main.go` goes through the lanes of every GPU and lists
the GPUs behind them.  NVML is a library, so its answers are the fields of
`Nvml`, and `Topology` says what they are on a node whose GPUs are linked as a
lane table describes.

* `addLane` is the body of the lane loop and `scanLanes` the loop.
* `Scanned` is its invariant: which GPUs have been recorded after some lanes,
  and with how many lanes.  `Scanned.addLane` is one lane, and
  `scanned_scanLanes` the lanes up to the first gap.
* `getNvlinkInfo_of_le` is what the node lists in the end, and
  `le_of_getNvlinkInfo_eq_ok` says when there is an end.
-/

namespace MetricCollector.Nvlink

open GoLib Grpcs Storage

/-- `MaxLanes`. -/
def maxLanes : Nat := 16

/-- `nvml.PciInfo`. -/
structure PciInfo where
  busId : Vector Int8 32
deriving DecidableEq, Repr

/-- The calls of NVML.  A call whose return is not `SUCCESS` gives `none`; where
the code drops the return, the field is what it goes on with. -/
structure Nvml (Device : Type) where
  deviceGetCount : Option Nat
  deviceGetHandleByIndex : Nat → Device
  deviceGetHandleByPciBusId : BusID → Option Device
  getIndex : Device → Nat
  getUUID : Device → String
  getPciInfo : Device → PciInfo
  getNvLinkRemotePciInfo : Device → Nat → Option PciInfo
  getNvLinkRemoteDeviceType : Device → Nat → Int64

variable {Device : Type}

/-- The bytes of a bus ID, copied one at a time. -/
def busString (busId : Vector Int8 32) : BusID := busId.toList.map Int8.toUInt8

/-- One byte of the bus ID of GPU `i` itself.  The copy reads its source at the
index of the GPU, not of the byte. -/
def ownByte (busId : Vector Int8 32) (i : Nat) : Exec UInt8 := do
  let byte ← index .getNvlinkInfo busId.toList i
  return byte.toUInt8

/-- The bus ID of GPU `i` itself. -/
def ownBusID (busId : Vector Int8 32) (i : Nat) : Exec BusID :=
  (List.range 32).mapM fun _ => ownByte busId i

/-- What lane `j` adds to the record of its GPU when `remote` is behind it. -/
def addLane (nvml : Nvml Device) (device : Device) (j : Nat) (remote : BusID)
    (status : NvlinkStatus) : NvlinkStatus :=
  match status.lanes remote with
  | some val => { status with lanes := Function.update status.lanes remote (some (val + 1)) }
  | none =>
      match nvml.deviceGetHandleByPciBusId remote with
      | none => status
      | some p2pDevice =>
          if nvml.getIndex p2pDevice > j then
            { status with
              lanes := Function.update status.lanes remote (some 1)
              p2pDeviceType := status.p2pDeviceType ++ [nvml.getNvLinkRemoteDeviceType device j]
              p2pUUID := status.p2pUUID ++ [nvml.getUUID p2pDevice]
              p2pBusID := status.p2pBusID ++ [remote] }
          else status

/-- The loop over the lanes, which ends at the first one with nothing behind it. -/
def scanLanes (nvml : Nvml Device) (device : Device) : List Nat → NvlinkStatus → NvlinkStatus
  | [], status => status
  | j :: js, status =>
      match nvml.getNvLinkRemotePciInfo device j with
      | none => status
      | some info => scanLanes nvml device js (addLane nvml device j (busString info.busId) status)

/-- The record of GPU `i`. -/
def nvlinkStatus (nvml : Nvml Device) (i : Nat) : Exec NvlinkStatus := do
  let device := nvml.deviceGetHandleByIndex i
  let busID ← ownBusID (nvml.getPciInfo device).busId i
  return scanLanes nvml device (List.range maxLanes) { uuid := nvml.getUUID device, busID }

/-- The link to the GPU at position `j` of a record. -/
def linkAt (status : NvlinkStatus) (j : Nat) : Exec NvLink := do
  let gpu2UUID ← index .getNvlinkInfo status.p2pUUID j
  let p2pBusID ← index .getNvlinkInfo status.p2pBusID j
  return { gpu1UUID := status.uuid, gpu2UUID, countLink := (status.lanes p2pBusID).getD 0 }

/-- The links that the record of a GPU amounts to. -/
def linksOf (status : NvlinkStatus) : Exec (List NvLink) :=
  (List.range status.p2pUUID.length).mapM (linkAt status)

/-- The body of the loop over the GPUs. -/
def listLinks (nvml : Nvml Device) (node : GrpcNode) (i : Nat) : Exec GrpcNode := do
  let status ← nvlinkStatus nvml i
  let links ← linksOf status
  return { node with nvLinkInfo := node.nvLinkInfo ++ links }

/-- `GetNvlinkInfo`. -/
def getNvlinkInfo (nvml : Nvml Device) (node : GrpcNode) : Exec GrpcNode :=
  match nvml.deviceGetCount with
  | none => return node
  | some count => (List.range count).foldlM (listLinks nvml) node

/-! ## The lanes up to the first gap -/

/-- The values in front of the first `none`. -/
def leading {α : Type} : List (Option α) → List α
  | some a :: xs => a :: leading xs
  | _ => []

section Leading

variable {α : Type}

@[simp] theorem leading_nil : leading ([] : List (Option α)) = [] := rfl

@[simp] theorem leading_none (xs : List (Option α)) : leading (none :: xs) = [] := rfl

@[simp] theorem leading_some (a : α) (xs : List (Option α)) :
    leading (some a :: xs) = a :: leading xs := rfl

theorem length_leading_le (xs : List (Option α)) : (leading xs).length ≤ xs.length := by
  induction xs with
  | nil => exact Nat.le_refl 0
  | cons x xs ih =>
      cases x with
      | none => exact Nat.zero_le _
      | some a => exact Nat.succ_le_succ ih

/-- A value leads when it is there and nothing in front of it is missing. -/
theorem getElem?_leading {xs : List (Option α)} {j : Nat} {a : α} :
    (leading xs)[j]? = some a ↔
      xs[j]? = some (some a) ∧ ∀ k < j, ∃ b, xs[k]? = some (some b) := by
  induction xs generalizing j with
  | nil => simp
  | cons x xs ih =>
      cases x with
      | none =>
          rw [leading_none]
          constructor
          · intro h
            simp at h
          · rintro ⟨hj, hbefore⟩
            cases j with
            | zero => simp at hj
            | succ j => simpa using hbefore 0 (by omega)
      | some b =>
          rw [leading_some]
          cases j with
          | zero => simp
          | succ j =>
              rw [List.getElem?_cons_succ, List.getElem?_cons_succ, ih]
              refine and_congr_right fun _ => ⟨?_, ?_⟩
              · intro h k hk
                cases k with
                | zero => exact ⟨b, rfl⟩
                | succ k => exact h k (by omega)
              · intro h k hk
                exact h (k + 1) (by omega)

/-- The leading values are all there are of a value exactly when none of it is
behind a gap. -/
theorem count_leading_eq_iff [DecidableEq α] {xs : List (Option α)} {a : α} :
    (leading xs).count a = xs.count (some a) ↔
      ∀ j : Nat, xs[j]? = some (some a) → ∀ k < j, ∃ b, xs[k]? = some (some b) := by
  induction xs with
  | nil => simp
  | cons x xs ih =>
      cases x with
      | none =>
          rw [leading_none, List.count_nil, List.count_cons_of_ne (by simp)]
          constructor
          · intro h j hj
            have hmem : some a ∉ xs := List.count_eq_zero.mp h.symm
            cases j with
            | zero => simp at hj
            | succ j =>
                rw [List.getElem?_cons_succ] at hj
                exact absurd (List.mem_of_getElem? hj) hmem
          · intro h
            refine (List.count_eq_zero.mpr ?_).symm
            intro hmem
            rcases List.mem_iff_getElem?.mp hmem with ⟨j, hj⟩
            simpa using h (j + 1) hj 0 (by omega)
      | some b =>
          have hcount : (leading (some b :: xs)).count a = (some b :: xs).count (some a) ↔
              (leading xs).count a = xs.count (some a) := by
            rw [leading_some, List.count_cons, List.count_cons, Option.some_beq_some]
            omega
          rw [hcount, ih]
          constructor
          · intro h j hj k hk
            cases k with
            | zero => exact ⟨b, rfl⟩
            | succ k =>
                cases j with
                | zero => omega
                | succ j => exact h j hj k (by omega)
          · intro h j hj k hk
            exact h (j + 1) hj (k + 1) (by omega)

end Leading

/-! ## What NVML answers on a node -/

/-- A node whose lanes are as a table says, and what NVML answers on it. -/
structure Topology (nvml : Nvml Device) where
  /-- The number of GPUs. -/
  gpus : Nat
  /-- The GPU behind a lane, if any. -/
  lane : Fin gpus → Fin maxLanes → Option (Fin gpus)
  /-- Both ends of a link see the same number of lanes. -/
  symmetric : ∀ i r,
    (List.ofFn (lane i)).count (some r) = (List.ofFn (lane r)).count (some i)
  count_eq : nvml.deviceGetCount = some gpus
  index_eq : ∀ i : Fin gpus, nvml.getIndex (nvml.deviceGetHandleByIndex i) = i
  /-- A UUID identifies a GPU. -/
  uuid_injective : Function.Injective fun i : Fin gpus =>
    nvml.getUUID (nvml.deviceGetHandleByIndex i)
  busId_injective : Function.Injective fun i : Fin gpus =>
    (nvml.getPciInfo (nvml.deviceGetHandleByIndex i)).busId
  /-- The answer for a lane is the PCI record of the GPU behind it. -/
  remote_eq : ∀ (i : Fin gpus) (j : Fin maxLanes),
    nvml.getNvLinkRemotePciInfo (nvml.deviceGetHandleByIndex i) j =
      (lane i j).map fun r => nvml.getPciInfo (nvml.deviceGetHandleByIndex r)
  /-- The lookup of a bus ID gives the GPU that has it. -/
  handle_eq : ∀ i : Fin gpus,
    nvml.deviceGetHandleByPciBusId
        (busString (nvml.getPciInfo (nvml.deviceGetHandleByIndex i)).busId) =
      some (nvml.deviceGetHandleByIndex i)

namespace Topology

variable {nvml : Nvml Device} (t : Topology nvml)

/-- The handle of a GPU. -/
def handle (i : Fin t.gpus) : Device := nvml.deviceGetHandleByIndex i

/-- The UUID of a GPU. -/
def uuid (i : Fin t.gpus) : String := nvml.getUUID (t.handle i)

/-- The bus ID of a GPU. -/
def busID (i : Fin t.gpus) : BusID := busString (nvml.getPciInfo (t.handle i)).busId

/-- The lanes of a GPU. -/
def row (i : Fin t.gpus) : List (Option (Fin t.gpus)) := List.ofFn (t.lane i)

/-- The number of lanes between two GPUs. -/
def lanesBetween (i r : Fin t.gpus) : Nat := (t.row i).count (some r)

/-- The GPUs behind the lanes in front of the first empty one. -/
def inSight (i : Fin t.gpus) : List (Fin t.gpus) := leading (t.row i)

/-- Bus IDs stay distinct as strings. -/
theorem busID_injective : Function.Injective t.busID := by
  intro i r h
  have hbyte : Function.Injective Int8.toUInt8 := by
    rintro ⟨a⟩ ⟨b⟩ hab
    exact congrArg Int8.ofUInt8 hab
  have hlist := List.map_injective_iff.mpr hbyte h
  exact t.busId_injective (Vector.toList_inj.mp hlist)

/-- The entry for a GPU and one that it sees. -/
def link (i r : Fin t.gpus) : NvLink where
  gpu1UUID := t.uuid i
  gpu2UUID := t.uuid r
  countLink := Int64.ofNat ((t.inSight i).count r)

end Topology

/-! ## The lane loop -/

variable {nvml : Nvml Device} {t : Topology nvml} {i : Fin t.gpus}

/-- The record of GPU `i` after lanes behind which the GPUs `seen` were found,
when the GPUs `found` among them have been recorded: a GPU is recorded if it
first shows up at a lane below its own index. -/
structure Scanned (t : Topology nvml) (i : Fin t.gpus) (seen found : List (Fin t.gpus))
    (status : NvlinkStatus) : Prop where
  nodup : found.Nodup
  mem_found : ∀ r, r ∈ found ↔ r ∈ seen.take r
  uuid : status.uuid = t.uuid i
  p2pUUID : status.p2pUUID = found.map t.uuid
  p2pBusID : status.p2pBusID = found.map t.busID
  lanes : ∀ r, status.lanes (t.busID r) =
    if r ∈ found then some (Int64.ofNat (seen.count r)) else none

/-- Whether one more lane brings a GPU into sight early enough. -/
theorem mem_take_append {seen : List (Fin t.gpus)} {x r : Fin t.gpus} :
    r ∈ (seen ++ [x]).take r ↔ r ∈ seen.take r ∨ seen.length < r ∧ r = x := by
  rw [List.take_append, List.mem_append]
  refine or_congr_right ?_
  rcases Nat.lt_or_ge seen.length r with hlt | hge
  · rw [List.take_of_length_le (by rw [List.length_singleton]; omega)]
    simp [hlt]
  · rw [Nat.sub_eq_zero_of_le hge, List.take_zero]
    simp [Nat.not_lt.mpr hge]

theorem count_append_of_ne {seen : List (Fin t.gpus)} {x r : Fin t.gpus} (h : r ≠ x) :
    (seen ++ [x]).count r = seen.count r := by
  rw [List.count_append, List.count_singleton, if_neg (by simpa using Ne.symm h), Nat.add_zero]

section Step

variable {seen found : List (Fin t.gpus)} {status : NvlinkStatus}

/-- A lane that puts no GPU on record leaves those that are to be there. -/
theorem Scanned.mem_found_append (h : Scanned t i seen found status) {x : Fin t.gpus}
    (hx : seen.length < x → x ∈ found) (r : Fin t.gpus) :
    r ∈ found ↔ r ∈ (seen ++ [x]).take r := by
  rw [mem_take_append, ← h.mem_found r]
  constructor
  · exact Or.inl
  · rintro (hr | ⟨hlt, rfl⟩)
    · exact hr
    · exact hx hlt

/-- The count for one bus ID is not that for another. -/
theorem update_busID_of_ne {x r : Fin t.gpus} (hr : r ≠ x) (val : Option Int64) :
    Function.update status.lanes (t.busID x) val (t.busID r) = status.lanes (t.busID r) :=
  Function.update_of_ne (fun heq => hr (t.busID_injective heq)) _ _

/-- A lane that leads to a GPU on record makes its link wider. -/
theorem Scanned.counted (h : Scanned t i seen found status) {x : Fin t.gpus} (hx : x ∈ found) :
    Scanned t i (seen ++ [x]) found { status with
      lanes := Function.update status.lanes (t.busID x)
        (some (Int64.ofNat (seen.count x) + 1)) } := by
  refine { h with mem_found := h.mem_found_append fun _ => hx, lanes := ?_ }
  · intro r
    show Function.update status.lanes (t.busID x) _ (t.busID r) = _
    by_cases hr : r = x
    · have hcount : (seen ++ [x]).count x = seen.count x + 1 := by simp
      rw [hr, Function.update_self, if_pos hx, hcount, Int64.ofNat_add]
      rfl
    · rw [update_busID_of_ne hr, h.lanes r, count_append_of_ne hr]

/-- A lane below the index of a GPU that is not on record puts it there. -/
theorem Scanned.recorded (h : Scanned t i seen found status) {x : Fin t.gpus} (hx : x ∉ found)
    (hlt : seen.length < x) (types : List Int64) :
    Scanned t i (seen ++ [x]) (found ++ [x]) { status with
      lanes := Function.update status.lanes (t.busID x) (some 1)
      p2pDeviceType := types
      p2pUUID := status.p2pUUID ++ [t.uuid x]
      p2pBusID := status.p2pBusID ++ [t.busID x] } := by
  -- none of the lanes so far leads to `x`, or it would be on record
  have hfresh : x ∉ seen := by
    have hnot := (h.mem_found x).not.mp hx
    rwa [List.take_of_length_le (Nat.le_of_lt hlt)] at hnot
  refine ⟨?_, ?_, h.uuid, ?_, ?_, ?_⟩
  · rw [List.nodup_append]
    refine ⟨h.nodup, List.nodup_singleton x, ?_⟩
    rintro r hr y hy rfl
    exact hx (List.mem_singleton.mp hy ▸ hr)
  · intro r
    rw [mem_take_append, List.mem_append, h.mem_found r, List.mem_singleton]
    refine or_congr_right ⟨?_, And.right⟩
    rintro rfl
    exact ⟨hlt, rfl⟩
  · show status.p2pUUID ++ [t.uuid x] = _
    rw [h.p2pUUID, List.map_append, List.map_singleton]
  · show status.p2pBusID ++ [t.busID x] = _
    rw [h.p2pBusID, List.map_append, List.map_singleton]
  · intro r
    show Function.update status.lanes (t.busID x) (some 1) (t.busID r) = _
    by_cases hr : r = x
    · have hcount : (seen ++ [x]).count x = 1 := by
        rw [List.count_append, List.count_eq_zero.mpr hfresh]
        simp
      rw [hr, Function.update_self, if_pos (by simp), hcount]
      rfl
    · have hmem : r ∈ found ++ [x] ↔ r ∈ found := by simp [hr]
      rw [update_busID_of_ne hr, h.lanes r, count_append_of_ne hr, if_congr hmem rfl rfl]

/-- A lane at or above the index of a GPU that is not on record changes nothing. -/
theorem Scanned.passed (h : Scanned t i seen found status) {x : Fin t.gpus} (hx : x ∉ found)
    (hge : ¬ seen.length < x) : Scanned t i (seen ++ [x]) found status := by
  refine { h with mem_found := h.mem_found_append fun hlt => absurd hlt hge, lanes := ?_ }
  · intro r
    rw [h.lanes r]
    by_cases hr : r = x
    · rw [hr, if_neg hx, if_neg hx]
    · rw [count_append_of_ne hr]

/-- One lane keeps the invariant. -/
theorem Scanned.addLane (h : Scanned t i seen found status) (x : Fin t.gpus) :
    ∃ found', Scanned t i (seen ++ [x]) found'
      (addLane nvml (t.handle i) seen.length (t.busID x) status) := by
  have hlanes := h.lanes x
  by_cases hx : x ∈ found
  · rw [if_pos hx] at hlanes
    rw [Nvlink.addLane, hlanes]
    exact ⟨found, h.counted hx⟩
  · have hlookup : nvml.deviceGetHandleByPciBusId (t.busID x) = some (t.handle x) := t.handle_eq x
    have hindex : nvml.getIndex (t.handle x) = x := t.index_eq x
    rw [if_neg hx] at hlanes
    rw [Nvlink.addLane, hlanes]
    simp only [hlookup, hindex]
    by_cases hlt : seen.length < x
    · rw [if_pos hlt]
      exact ⟨found ++ [x], h.recorded hx hlt _⟩
    · rw [if_neg hlt]
      exact ⟨found, h.passed hx hlt⟩

end Step

/-- The lane loop from lane `j` on: what it goes over are the lanes that are
left, up to the first gap. -/
theorem scanned_scanLanes (k j : Nat) (hj : j + k = maxLanes) {seen found : List (Fin t.gpus)}
    {status : NvlinkStatus} (hseen : seen.length = j) (h : Scanned t i seen found status) :
    ∃ found', Scanned t i (seen ++ leading ((t.row i).drop j)) found'
      (scanLanes nvml (t.handle i) (List.range' j k) status) := by
  induction k generalizing j seen found status with
  | zero =>
      have hdrop : (t.row i).drop j = [] := by
        rw [List.drop_eq_nil_iff, Topology.row, List.length_ofFn]
        omega
      rw [hdrop, leading_nil, List.append_nil]
      exact ⟨found, h⟩
  | succ k ih =>
      have hlt : j < maxLanes := by omega
      have hdrop : (t.row i).drop j = t.lane i ⟨j, hlt⟩ :: (t.row i).drop (j + 1) := by
        have hlength : j < (t.row i).length := by rwa [Topology.row, List.length_ofFn]
        rw [List.drop_eq_getElem_cons hlength]
        congr 1
        exact List.getElem_ofFn hlength
      have hremote := t.remote_eq i ⟨j, hlt⟩
      rw [hdrop, List.range'_succ, scanLanes]
      cases hlane : t.lane i ⟨j, hlt⟩ with
      | none =>
          rw [hlane] at hremote
          have hstop : nvml.getNvLinkRemotePciInfo (t.handle i) j = none := hremote
          rw [hstop, leading_none, List.append_nil]
          exact ⟨found, h⟩
      | some x =>
          rw [hlane] at hremote
          have hgo : nvml.getNvLinkRemotePciInfo (t.handle i) j =
              some (nvml.getPciInfo (t.handle x)) := hremote
          rw [hgo, leading_some]
          rcases h.addLane x with ⟨found', h'⟩
          rw [hseen] at h'
          have hrest := ih (j + 1) (by omega) (by rw [List.length_append, hseen]; rfl) h'
          rwa [List.append_assoc, List.singleton_append] at hrest

/-! ## The record of a GPU and its links -/

/-- A GPU whose index is a position in a bus ID gets its record. -/
theorem exists_nvlinkStatus (t : Topology nvml) (i : Fin t.gpus) (h : i.val < 32) :
    ∃ status found, nvlinkStatus nvml i = .ok status ∧
      Scanned t i (t.inSight i) found status := by
  have hbyte : ∀ x ∈ List.range 32,
      ∃ byte, ownByte (nvml.getPciInfo (t.handle i)).busId i = .ok byte := by
    intro x _
    have hlt : i.val < (nvml.getPciInfo (t.handle i)).busId.toList.length := by
      rwa [Vector.length_toList]
    rcases exists_index_of_lt Frame.getNvlinkInfo hlt with ⟨byte, hb⟩
    exact ⟨byte.toUInt8, by rw [ownByte, hb, ok_bind, pure_eq_ok]⟩
  rcases exists_mapM_eq_ok hbyte with ⟨busID, hbusID⟩
  have hown : ownBusID (nvml.getPciInfo (t.handle i)).busId i = .ok busID := hbusID
  have hstart : Scanned t i [] [] { uuid := t.uuid i, busID } :=
    ⟨List.nodup_nil, by simp, rfl, rfl, rfl, by simp⟩
  rcases scanned_scanLanes maxLanes 0 (Nat.zero_add _) rfl hstart with ⟨found, hfound⟩
  rw [List.drop_zero, List.nil_append, ← List.range_eq_range'] at hfound
  refine ⟨_, found, ?_, hfound⟩
  show (ownBusID (nvml.getPciInfo (t.handle i)).busId i >>= _) = _
  rw [hown, ok_bind]
  rfl

/-- Behind the last position of a bus ID there is no byte to read. -/
theorem nvlinkStatus_of_le (nvml : Nvml Device) {i : Nat} (h : 32 ≤ i) :
    nvlinkStatus nvml i = .error ⟨.indexOutOfRange, .getNvlinkInfo⟩ := by
  have hown : ∀ busId, ownBusID busId i = .error ⟨.indexOutOfRange, .getNvlinkInfo⟩ := by
    intro busId
    have hlength : busId.toList.length ≤ i := by rwa [Vector.length_toList]
    rw [ownBusID, List.range_succ_eq_map, List.mapM_cons, ownByte, index_of_le hlength,
      error_bind, error_bind]
  show (ownBusID _ i >>= _) = _
  rw [hown, error_bind]

/-- A record lists one link for each GPU on it. -/
theorem linksOf_eq {found : List (Fin t.gpus)} {status : NvlinkStatus}
    (h : Scanned t i (t.inSight i) found status) :
    linksOf status = .ok (found.map (t.link i)) := by
  have hlength : status.p2pUUID.length = (found.map (t.link i)).length := by
    rw [h.p2pUUID, List.length_map, List.length_map]
  rw [linksOf, hlength]
  apply mapM_range_eq_ok
  intro j link hlink
  rw [List.getElem?_map, Option.map_eq_some_iff] at hlink
  rcases hlink with ⟨r, hj, rfl⟩
  have huuid : index Frame.getNvlinkInfo status.p2pUUID j = .ok (t.uuid r) := by
    rw [index_eq_ok, h.p2pUUID, List.getElem?_map, hj, Option.map_some]
  have hbus : index Frame.getNvlinkInfo status.p2pBusID j = .ok (t.busID r) := by
    rw [index_eq_ok, h.p2pBusID, List.getElem?_map, hj, Option.map_some]
  rw [linkAt, huuid, ok_bind, hbus, ok_bind, h.lanes r, if_pos (List.mem_of_getElem? hj), h.uuid]
  rfl

/-! ## All GPUs -/

/-- With at most 32 GPUs, the node lists for every GPU those that it has on
record. -/
theorem getNvlinkInfo_of_le (t : Topology nvml) (hle : t.gpus ≤ 32) (node : GrpcNode) :
    ∃ found : Fin t.gpus → List (Fin t.gpus),
      (∀ i, (found i).Nodup ∧ ∀ r, r ∈ found i ↔ r ∈ (t.inSight i).take r) ∧
      getNvlinkInfo nvml node = .ok { node with nvLinkInfo :=
        node.nvLinkInfo ++ (List.finRange t.gpus).flatMap fun i => (found i).map (t.link i) } := by
  have hstatus := fun i : Fin t.gpus => exists_nvlinkStatus t i (by omega)
  choose status found hrun hscanned using hstatus
  refine ⟨found, fun i => ⟨(hscanned i).nodup, (hscanned i).mem_found⟩, ?_⟩
  have hturn : ∀ (node : GrpcNode), ∀ i ∈ List.finRange t.gpus, listLinks nvml node i =
      .ok { node with nvLinkInfo := node.nvLinkInfo ++ (found i).map (t.link i) } := by
    intro node i _
    rw [listLinks, hrun i, ok_bind, linksOf_eq (hscanned i), ok_bind, pure_eq_ok]
  have happend : ∀ (is : List (Fin t.gpus)) (node : GrpcNode),
      is.foldl (fun node i =>
          { node with nvLinkInfo := node.nvLinkInfo ++ (found i).map (t.link i) }) node =
        { node with nvLinkInfo :=
            node.nvLinkInfo ++ is.flatMap fun i => (found i).map (t.link i) } := by
    intro is
    induction is with
    | nil => simp
    | cons i is ih =>
        intro node
        rw [List.foldl_cons, ih, List.flatMap_cons, List.append_assoc]
  rw [getNvlinkInfo, t.count_eq]
  show (List.range t.gpus).foldlM (listLinks nvml) node = _
  rw [← List.map_coe_finRange_eq_range, List.foldlM_map, foldlM_eq_ok hturn, happend]

/-- With more GPUs there is no list. -/
theorem le_of_getNvlinkInfo_eq_ok (t : Topology nvml) {node node' : GrpcNode}
    (hrun : getNvlinkInfo nvml node = .ok node') : t.gpus ≤ 32 := by
  rw [getNvlinkInfo, t.count_eq] at hrun
  have hturn : ∀ node node' : GrpcNode, ∀ i ∈ List.range t.gpus, True →
      listLinks nvml node i = .ok node' → True ∧ i < 32 := by
    intro node node' i _ _ h
    refine ⟨trivial, ?_⟩
    by_contra hge
    rw [listLinks, nvlinkStatus_of_le nvml (Nat.not_lt.mp hge), error_bind] at h
    cases h
  have hall := (foldlM_inv (fun _ => True) (fun i => i < 32) hturn trivial hrun).2
  by_contra hgt
  have := hall 32 (List.mem_range.mpr (by omega))
  omega

end MetricCollector.Nvlink
