import MetricCollector.Nvlink
import Mathlib.Data.List.Nodup
import Mathlib.Data.Fintype.Basic

/-!
# The pairs that NVLink enumeration lists

`GetNvlinkInfo` records the GPU behind a lane only if its index is above the
number of the lane, where the index of the GPU that the lane belongs to is what
would make one end of each link record it.  So a pair is listed by neither, one
or both of its ends, as the lane numbers have it.

* `Finds` is when one GPU records another, read off the lane table.
* `countP_links` counts the entries for a pair.
* `listsEachPair_iff` says on which nodes the list is right.
-/

namespace MetricCollector.Nvlink

open GoLib Grpcs

variable {Device : Type} {nvml : Nvml Device}

namespace Topology

variable (t : Topology nvml)

/-! ## What one GPU records -/

/-- GPU `i` finds GPU `r` at a lane below the index of `r`, in front of its first
empty lane. -/
def Finds (i r : Fin t.gpus) : Prop :=
  ∃ j : Fin maxLanes, j.val < r.val ∧ t.lane i j = some r ∧ ∀ k < j, (t.lane i k).isSome

/-- No lane from GPU `i` to GPU `r` is behind an empty lane of GPU `i`. -/
def Gapless (i r : Fin t.gpus) : Prop :=
  ∀ j : Fin maxLanes, t.lane i j = some r → ∀ k < j, (t.lane i k).isSome

instance (i r : Fin t.gpus) : Decidable (t.Finds i r) :=
  inferInstanceAs (Decidable (∃ j : Fin maxLanes,
    j.val < r.val ∧ t.lane i j = some r ∧ ∀ k < j, (t.lane i k).isSome))

instance (i r : Fin t.gpus) : Decidable (t.Gapless i r) :=
  inferInstanceAs (Decidable (∀ j : Fin maxLanes,
    t.lane i j = some r → ∀ k < j, (t.lane i k).isSome))

variable {t} {i r : Fin t.gpus}

theorem getElem?_row {j : Nat} {x : Option (Fin t.gpus)} :
    (t.row i)[j]? = some x ↔ ∃ hj : j < maxLanes, t.lane i ⟨j, hj⟩ = x := by
  rw [row, List.getElem?_ofFn]
  by_cases hj : j < maxLanes
  · simp [hj]
  · simp [hj]

/-- All lanes in front of a lane lead somewhere. -/
theorem forall_row_iff (j : Fin maxLanes) :
    (∀ k < j.val, ∃ b, (t.row i)[k]? = some (some b)) ↔ ∀ k < j, (t.lane i k).isSome := by
  constructor
  · intro h k hk
    rcases h k hk with ⟨b, hb⟩
    rcases getElem?_row.mp hb with ⟨hlt, hlane⟩
    rw [hlane]
    rfl
  · intro h k hk
    have hlt : k < maxLanes := by omega
    rcases Option.isSome_iff_exists.mp (h ⟨k, hlt⟩ hk) with ⟨b, hb⟩
    exact ⟨b, getElem?_row.mpr ⟨hlt, hb⟩⟩

theorem mem_take_inSight : r ∈ (t.inSight i).take r ↔ t.Finds i r := by
  rw [List.mem_iff_getElem?]
  constructor
  · rintro ⟨j, hj⟩
    rw [List.getElem?_take] at hj
    split at hj
    case isTrue hlt =>
      rcases getElem?_leading.mp hj with ⟨hrow, hbefore⟩
      rcases getElem?_row.mp hrow with ⟨hmax, hlane⟩
      exact ⟨⟨j, hmax⟩, hlt, hlane, (forall_row_iff ⟨j, hmax⟩).mp hbefore⟩
    case isFalse => cases hj
  · rintro ⟨j, hlt, hlane, hbefore⟩
    refine ⟨j, ?_⟩
    rw [List.getElem?_take, if_pos hlt]
    exact getElem?_leading.mpr ⟨getElem?_row.mpr ⟨j.isLt, hlane⟩, (forall_row_iff j).mpr hbefore⟩

theorem count_inSight_iff : (t.inSight i).count r = t.lanesBetween i r ↔ t.Gapless i r := by
  rw [inSight, lanesBetween, count_leading_eq_iff]
  constructor
  · intro h j hj
    exact (forall_row_iff j).mp (h j (getElem?_row.mpr ⟨j.isLt, hj⟩))
  · intro h j hj
    rcases getElem?_row.mp hj with ⟨hmax, hlane⟩
    exact (forall_row_iff ⟨j, hmax⟩).mpr (h ⟨j, hmax⟩ hlane)

/-- Only linked GPUs find each other. -/
theorem Finds.linked (h : t.Finds i r) : 0 < t.lanesBetween i r := by
  rcases h with ⟨j, -, hlane, -⟩
  have hrow : (t.row i)[j.val]? = some (some r) := getElem?_row.mpr ⟨j.isLt, hlane⟩
  exact List.count_pos_iff.mpr (List.mem_of_getElem? hrow)

/-- The width of an entry is the number of lanes in sight. -/
theorem toInt_countLink : (t.link i r).countLink.toInt = (t.inSight i).count r := by
  have hle : (t.inSight i).count r ≤ maxLanes := by
    refine List.count_le_length.trans ?_
    have hlength := length_leading_le (t.row i)
    rwa [row, List.length_ofFn] at hlength
  refine Int64.toInt_ofNat_of_lt ?_
  have hmax : maxLanes < 2 ^ 63 := by decide
  omega

/-! ## The list of a node -/

variable (t)

/-- The entry is for the two GPUs, in either order. -/
def Joins (i r : Fin t.gpus) (e : NvLink) : Prop :=
  e.gpu1UUID = t.uuid i ∧ e.gpu2UUID = t.uuid r ∨ e.gpu1UUID = t.uuid r ∧ e.gpu2UUID = t.uuid i

instance (i r : Fin t.gpus) : DecidablePred (t.Joins i r) := fun e =>
  inferInstanceAs (Decidable (e.gpu1UUID = t.uuid i ∧ e.gpu2UUID = t.uuid r ∨
    e.gpu1UUID = t.uuid r ∧ e.gpu2UUID = t.uuid i))

/-- A list with one entry for each pair of linked GPUs, as wide as the pair has
lanes, and no other entry. -/
structure ListsEachPair (links : List NvLink) : Prop where
  once : ∀ i r, i ≠ r → 0 < t.lanesBetween i r → links.countP (t.Joins i r) = 1
  only : ∀ e ∈ links, ∃ i r, i ≠ r ∧ 0 < t.lanesBetween i r ∧ t.Joins i r e ∧
    e.countLink.toInt = t.lanesBetween i r

/-- Every link is found from one of its ends, in full, and no GPU finds itself. -/
structure FoundFromOneEnd : Prop where
  few : t.gpus ≤ 32
  oneEnd : ∀ i r, i ≠ r → 0 < t.lanesBetween i r → (t.Finds i r ↔ ¬ t.Finds r i)
  notSelf : ∀ i, ¬ t.Finds i i
  gapless : ∀ i r, t.Finds i r → t.Gapless i r

/-- The pairs of a GPU and one that it has on record. -/
def pairs (found : Fin t.gpus → List (Fin t.gpus)) : List (Fin t.gpus × Fin t.gpus) :=
  (List.finRange t.gpus).flatMap fun i => (found i).map (Prod.mk i)

variable {t} {found : Fin t.gpus → List (Fin t.gpus)}

theorem joins_link {i r i' r' : Fin t.gpus} :
    t.Joins i r (t.link i' r') ↔ (i', r') = (i, r) ∨ (i', r') = (r, i) := by
  have hinj : ∀ a b : Fin t.gpus, t.uuid a = t.uuid b ↔ a = b :=
    fun a b => ⟨fun h => t.uuid_injective h, fun h => h ▸ rfl⟩
  simp only [Joins, link, hinj, Prod.mk.injEq]

theorem mem_pairs (hfound : ∀ i r, r ∈ found i ↔ t.Finds i r) {i r : Fin t.gpus} :
    (i, r) ∈ t.pairs found ↔ t.Finds i r := by
  rw [pairs, List.mem_flatMap]
  constructor
  · rintro ⟨i', -, hmem⟩
    rcases List.mem_map.mp hmem with ⟨r', hr', heq⟩
    cases heq
    exact (hfound i r).mp hr'
  · intro h
    exact ⟨i, List.mem_finRange i, List.mem_map.mpr ⟨r, (hfound i r).mpr h, rfl⟩⟩

theorem nodup_pairs (hnodup : ∀ i, (found i).Nodup) : (t.pairs found).Nodup := by
  rw [pairs, List.nodup_flatMap]
  refine ⟨fun i _ => (hnodup i).map (Prod.mk_right_injective i), ?_⟩
  refine (List.nodup_finRange t.gpus).imp ?_
  intro i i' hne p hp hp'
  rcases List.mem_map.mp hp with ⟨r, -, rfl⟩
  rcases List.mem_map.mp hp' with ⟨r', -, heq⟩
  exact hne (congrArg Prod.fst heq).symm

theorem links_eq_map_pairs :
    ((List.finRange t.gpus).flatMap fun i => (found i).map (t.link i)) =
      (t.pairs found).map fun p => t.link p.1 p.2 := by
  rw [pairs, List.map_flatMap]
  congr 1
  funext i
  rw [List.map_map]
  rfl

/-- How often either of two values occurs in a list without repetition. -/
theorem countP_or {α : Type} [DecidableEq α] {p q : α} (hne : p ≠ q) {xs : List α}
    (h : xs.Nodup) : xs.countP (fun x => x = p ∨ x = q) =
      (if p ∈ xs then 1 else 0) + (if q ∈ xs then 1 else 0) := by
  induction xs with
  | nil => rfl
  | cons x xs ih =>
      obtain ⟨hx, hxs⟩ := List.nodup_cons.mp h
      rw [List.countP_cons, ih hxs]
      by_cases hp : x = p
      · subst hp
        simp [hx, Ne.symm hne]
        omega
      · by_cases hq : x = q
        · subst hq
          simp [hx, hne]
        · simp [hp, hq, Ne.symm hp, Ne.symm hq]

/-- A pair has one entry for each of its ends that finds the other. -/
theorem countP_links (hnodup : ∀ i, (found i).Nodup)
    (hfound : ∀ i r, r ∈ found i ↔ t.Finds i r) {i r : Fin t.gpus} (hne : i ≠ r) :
    ((t.pairs found).map fun p => t.link p.1 p.2).countP (t.Joins i r) =
      (if t.Finds i r then 1 else 0) + (if t.Finds r i then 1 else 0) := by
  have hends : ∀ p ∈ t.pairs found,
      ((fun e => decide (t.Joins i r e)) ∘ fun p => t.link p.1 p.2) p =
        decide (p = (i, r) ∨ p = (r, i)) :=
    fun p _ => decide_eq_decide.mpr joins_link
  have hdistinct : (i, r) ≠ (r, i) := fun h => hne (congrArg Prod.fst h)
  rw [List.countP_map, List.countP_congr (fun p hp => by rw [hends p hp]),
    countP_or hdistinct (nodup_pairs hnodup)]
  simp only [mem_pairs hfound]

/-- Every pair has one entry if every link is found from one of its ends. -/
theorem once_iff (hnodup : ∀ i, (found i).Nodup)
    (hfound : ∀ i r, r ∈ found i ↔ t.Finds i r) :
    (∀ i r, i ≠ r → 0 < t.lanesBetween i r →
        ((t.pairs found).map fun p => t.link p.1 p.2).countP (t.Joins i r) = 1) ↔
      ∀ i r, i ≠ r → 0 < t.lanesBetween i r → (t.Finds i r ↔ ¬ t.Finds r i) := by
  refine forall_congr' fun i => forall_congr' fun r => ?_
  refine imp_congr_right fun hne => imp_congr_right fun _ => ?_
  rw [countP_links hnodup hfound hne]
  by_cases h : t.Finds i r
  · by_cases h' : t.Finds r i
    · simp [h, h']
    · simp [h, h']
  · by_cases h' : t.Finds r i
    · simp [h, h']
    · simp [h, h']

/-- Every entry is for a linked pair, and as wide, if no GPU finds itself and
none finds only some of the lanes. -/
theorem only_iff (hfound : ∀ i r, r ∈ found i ↔ t.Finds i r) :
    (∀ e ∈ (t.pairs found).map fun p => t.link p.1 p.2, ∃ i r, i ≠ r ∧ 0 < t.lanesBetween i r ∧
        t.Joins i r e ∧ e.countLink.toInt = t.lanesBetween i r) ↔
      (∀ i, ¬ t.Finds i i) ∧ ∀ i r, t.Finds i r → t.Gapless i r := by
  constructor
  · intro honly
    have hentry : ∀ i r, t.Finds i r → ∃ i' r', i' ≠ r' ∧ 0 < t.lanesBetween i' r' ∧
        t.Joins i' r' (t.link i r) ∧
        (t.link i r).countLink.toInt = t.lanesBetween i' r' :=
      fun i r h => honly _ (List.mem_map.mpr ⟨(i, r), (mem_pairs hfound).mpr h, rfl⟩)
    constructor
    · intro i hself
      rcases hentry i i hself with ⟨i', r', hne, -, hjoins, -⟩
      rcases joins_link.mp hjoins with heq | heq
      · cases heq
        exact hne rfl
      · cases heq
        exact hne rfl
    · intro i r h
      rcases hentry i r h with ⟨i', r', -, -, hjoins, hwidth⟩
      have hsame : t.lanesBetween i' r' = t.lanesBetween i r := by
        rcases joins_link.mp hjoins with heq | heq
        · cases heq
          rfl
        · cases heq
          exact t.symmetric r i
      rw [toInt_countLink, hsame] at hwidth
      exact count_inSight_iff.mp (Int.ofNat_inj.mp hwidth)
  · rintro ⟨hself, hgapless⟩ e he
    rcases List.mem_map.mp he with ⟨⟨i, r⟩, hp, rfl⟩
    have hfinds : t.Finds i r := (mem_pairs hfound).mp hp
    have hne : i ≠ r := by
      rintro rfl
      exact hself i hfinds
    refine ⟨i, r, hne, hfinds.linked, joins_link.mpr (.inl rfl), ?_⟩
    rw [toInt_countLink, count_inSight_iff.mpr (hgapless i r hfinds)]

end Topology

/-! ## When the list is right -/

/-- NVLink enumeration lists each linked pair once and in full exactly on the
nodes with at most 32 GPUs where every link is found from one of its ends. -/
theorem listsEachPair_iff (nvml : Nvml Device) (t : Topology nvml) (node : GrpcNode) :
    (∃ node', getNvlinkInfo nvml { node with nvLinkInfo := [] } = .ok node' ∧
      t.ListsEachPair node'.nvLinkInfo) ↔ t.FoundFromOneEnd := by
  by_cases hle : t.gpus ≤ 32
  · rcases getNvlinkInfo_of_le t hle { node with nvLinkInfo := [] } with ⟨found, hrecord, hrun⟩
    have hnodup := fun i => (hrecord i).1
    have hfound := fun i r => ((hrecord i).2 r).trans Topology.mem_take_inSight
    have honce := Topology.once_iff hnodup hfound
    have honly := Topology.only_iff hfound
    rw [List.nil_append, Topology.links_eq_map_pairs] at hrun
    constructor
    · rintro ⟨node', hnode, hlist⟩
      rw [hrun] at hnode
      cases hnode
      obtain ⟨hself, hgapless⟩ := honly.mp hlist.only
      exact ⟨hle, honce.mp hlist.once, hself, hgapless⟩
    · intro h
      exact ⟨_, hrun, honce.mpr h.oneEnd, honly.mpr ⟨h.notSelf, h.gapless⟩⟩
  · constructor
    · rintro ⟨node', hrun, -⟩
      exact absurd (le_of_getNvlinkInfo_eq_ok t hrun) hle
    · intro h
      exact absurd h.few hle

/-- NVML on a node whose GPUs are known by their index. -/
def indexedNvml (gpus : Nat) (lane : Fin gpus → Fin maxLanes → Option (Fin gpus)) :
    Nvml Nat where
  deviceGetCount := some gpus
  deviceGetHandleByIndex i := i
  deviceGetHandleByPciBusId busId := busId.head?.map UInt8.toNat
  getIndex device := device
  getUUID device := String.ofList (List.replicate device 'g')
  getPciInfo device := ⟨Vector.replicate 32 (Int8.ofNat device)⟩
  getNvLinkRemotePciInfo device j :=
    if h : device < gpus ∧ j < maxLanes then
      (lane ⟨device, h.1⟩ ⟨j, h.2⟩).map fun r => ⟨Vector.replicate 32 (Int8.ofNat r)⟩
    else none
  getNvLinkRemoteDeviceType _ _ := 0

/-- Two GPUs with one lane between them. -/
def onlyTwo (i : Fin 2) (j : Fin maxLanes) : Option (Fin 2) :=
  match i, j.val with
  | 0, 0 => some 1
  | 1, 0 => some 0
  | _, _ => none

/-- The node with `onlyTwo` for its lanes. -/
def onlyTwoTopology : Topology (indexedNvml 2 onlyTwo) where
  gpus := 2
  lane := onlyTwo
  symmetric := by decide
  count_eq := rfl
  index_eq _ := rfl
  uuid_injective := by decide
  busId_injective := by decide
  remote_eq i j := dif_pos ⟨i.isLt, j.isLt⟩
  handle_eq := by decide

/-- The first of two GPUs finds the second, which does not find the first. -/
theorem listsEachPair_on_onlyTwo :
    ∃ node', getNvlinkInfo (indexedNvml 2 onlyTwo) { ({} : GrpcNode) with nvLinkInfo := [] } =
        .ok node' ∧ onlyTwoTopology.ListsEachPair node'.nvLinkInfo := by
  refine (listsEachPair_iff (indexedNvml 2 onlyTwo) onlyTwoTopology {}).mpr ?_
  exact ⟨by decide, by decide, by decide, by decide⟩

/-- Three GPUs, the last two of which have one lane between them. -/
def lastTwo (i : Fin 3) (j : Fin maxLanes) : Option (Fin 3) :=
  match i, j.val with
  | 1, 0 => some 2
  | 2, 0 => some 1
  | _, _ => none

/-- The node with `lastTwo` for its lanes. -/
def lastTwoTopology : Topology (indexedNvml 3 lastTwo) where
  gpus := 3
  lane := lastTwo
  symmetric := by decide
  count_eq := rfl
  index_eq _ := rfl
  uuid_injective := by decide
  busId_injective := by decide
  remote_eq i j := dif_pos ⟨i.isLt, j.isLt⟩
  handle_eq := by decide

/-- Both of the linked GPUs find the other at lane 0, so they are listed twice. -/
theorem listsEachPair_fails_on_lastTwo :
    ¬ ∀ (Device : Type) (nvml : Nvml Device) (t : Topology nvml) (node : GrpcNode),
      ∃ node', getNvlinkInfo nvml { node with nvLinkInfo := [] } = .ok node' ∧
        t.ListsEachPair node'.nvLinkInfo := by
  intro hclaim
  rcases hclaim Nat _ lastTwoTopology {} with ⟨node', hrun, hlist⟩
  have hnode : getNvlinkInfo (indexedNvml 3 lastTwo) { ({} : GrpcNode) with nvLinkInfo := [] } =
      .ok { nvLinkInfo := [⟨"g", "gg", 1⟩, ⟨"gg", "g", 1⟩] } := by decide
  rw [hnode] at hrun
  cases hrun
  have hne : (1 : Fin 3) ≠ 2 := by decide
  have hone := hlist.once (1 : Fin 3) (2 : Fin 3) hne (by decide)
  revert hone
  decide

end MetricCollector.Nvlink
