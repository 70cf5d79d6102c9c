import MetricCollector.Gpumetric
import MetricCollector.Gpumpsmetric.Mapping
import MetricCollector.GoLib.Overwrite
import MetricCollector.Influx.Wire

/-!
# What the database receives

Every point of a cycle goes to InfluxDB in a body of its own, with its time in whole seconds.

* `Source` is what a point is made of, and `body` the bytes of one write.
* `rows_body`: the row that the readers of a point were checked against is the row that its
  bytes are parsed into.
* `identity_eq_iff`: two writes are told apart by the measurement, the UUID and the second,
  and by nothing else.
* `podBodies_leave_last`: of the pods of a GPU that are written within one second the last
  one is left.
-/

namespace MetricCollector.Gpumpsmetric

open GoLib Grpcs Influx Gpumetric

/-! ## What is written -/

/-- What a point is made of: a GPU, a node with or without a driver, or a pod. -/
inductive Source where
  | gpu (i : Int64) (gpu : GrpcGPU)
  | node (nodecpu nodememory : Int64) (nodename : String) (count : Int64) (gpuuuid : List String)
      (node : GrpcNode)
  | shortNode (nodecpu nodememory : Int64) (nodename : String)
  | pod (uuid : String) (entry : PodMetric)

namespace Source

def point : Source → Option Point
  | gpu i g => gpuPoint i g
  | node nodecpu nodememory nodename count gpuuuid n =>
      nodePoint nodecpu nodememory nodename count gpuuuid n
  | shortNode nodecpu nodememory nodename => shortNodePoint nodecpu nodememory nodename
  | pod uuid entry => podPoint uuid entry

def measurement : Source → String
  | gpu _ _ => "gpumetric"
  | node .. => "nodemetric"
  | shortNode .. => "nodemetric"
  | pod _ _ => "podmetric"

/-- The UUID of its tag. -/
def uuid : Source → Option String
  | gpu _ g => some g.grpcGPUUUID
  | node .. => none
  | shortNode .. => none
  | pod uuid _ => some uuid

def tags (s : Source) : List (String × String) := s.uuid.toList.map fun uuid => ("UUID", uuid)

/-- The names of its fields. -/
def names : Source → List String
  | gpu _ _ => ["Index", "GPUName", "memory(total)", "memory(free)", "memory(used)", "utilization",
      "Power", "temperature", "Podnum", "FanSpeed"]
  | node .. => ["NodeCPU", "NodeMemory", "uuid", "Count", "NodeName", "NodeStorage",
      "NodeNetworkRX", "NodeNetworkTX", "totalpod"]
  | shortNode .. => ["NodeCPU", "NodeMemory", "uuid", "Count", "NodeName"]
  | pod _ _ => ["gpu_mps_process", "gpu_mps_memory", "gpu_mps_pid", "gpu_mps_pod",
      "gpu_mps_networkrx", "gpu_mps_networktx", "gpu_mps_storage", "gpu_mps_cpu",
      "gpu_mps_nodememory", "gpu_mps_uid"]

/-- A UUID of one line, without a backslash, and a number of cores that `strconv` writes as
documented. -/
structure Writable (appendFloat : ℚ → Text) (s : Source) : Prop where
  uuid : ∀ u, s.uuid = some u → Plain u.toList
  cpu : ∀ u entry, s = pod u entry → FloatText (appendFloat entry.podCPU) entry.podCPU

theorem newPoint_of_point {s : Source} {pt : Point} (hpt : s.point = some pt) :
    newPoint s.measurement s.tags pt.fields = some pt ∧ pt.fields.map Prod.fst = s.names := by
  cases s with
  | _ =>
      dsimp only [point, gpuPoint, nodePoint, shortNodePoint, podPoint] at hpt
      obtain rfl := eq_of_newPoint hpt
      exact ⟨hpt, rfl⟩

theorem names_nodup (s : Source) : ("UUID" :: s.names).Nodup := by
  cases s with
  | _ =>
      dsimp only [names]
      decide

/-- No field has the name of the tag. -/
theorem keys_nodup (s : Source) : (s.tags.map Prod.fst ++ s.names).Nodup := by
  cases huuid : s.uuid with
  | none =>
      rw [tags, huuid]
      exact (List.nodup_cons.mp s.names_nodup).2
  | some u =>
      rw [tags, huuid]
      exact s.names_nodup

theorem length_tags_lt (s : Source) : s.tags.length < 100 := by
  cases huuid : s.uuid with
  | _ =>
      rw [tags, huuid]
      simp

theorem value_ne_empty {s : Source} (huuid : s.uuid ≠ some "") : ∀ t ∈ s.tags, t.2 ≠ "" := by
  intro t ht hempty
  obtain ⟨u, hu, rfl⟩ := List.mem_map.mp ht
  exact huuid (hempty ▸ Option.mem_toList.mp hu)

theorem uuid_eq_none_iff (s : Source) : s.uuid = none ↔ s.measurement = "nodemetric" := by
  cases s with
  | _ => simp [uuid, measurement]

/-- Two points of one measurement have the same tags when they have the same UUID. -/
theorem tags_perm_iff {s s' : Source} (h : s.measurement = s'.measurement) :
    (s.tags.filter fun t => t.2 ≠ "").Perm (s'.tags.filter fun t => t.2 ≠ "") ↔
      s.uuid = s'.uuid := by
  have hnone : s.uuid = none ↔ s'.uuid = none := by
    rw [uuid_eq_none_iff, uuid_eq_none_iff, h]
  unfold tags
  cases huuid : s.uuid with
  | none => simp [hnone.mp huuid]
  | some u =>
      cases huuid' : s'.uuid with
      | none => exact absurd (hnone.mpr huuid') (by simp [huuid])
      | some u' =>
          by_cases hu : u = ""
          · by_cases hu' : u' = ""
            · simp [hu, hu']
            · simp [hu, hu', Ne.symm hu']
          · by_cases hu' : u' = ""
            · simp [hu, hu']
            · simp [hu, hu']

theorem names_bare (s : Source) : ∀ k ∈ s.names, BareName k := by
  cases s with
  | _ =>
      dsimp only [names]
      decide

theorem writableName_measurement (s : Source) : WritableName s.measurement.toList := by
  cases s with
  | _ =>
      dsimp only [measurement]
      exact BareName.writableName (by decide) (by decide) (by decide)

section Writable

variable {appendFloat : ℚ → Text} {s : Source} {pt : Point}

theorem Writable.sendableTags (h : s.Writable appendFloat) : SendableTags s.tags := by
  cases huuid : s.uuid with
  | none =>
      rw [tags, huuid]
      exact ⟨by decide, by decide, by decide, by decide, by decide⟩
  | some u =>
      have hplain := h.uuid u huuid
      rw [tags, huuid]
      refine ⟨?_, ?_, ?_, ?_, ?_⟩
      all_goals simp only [Option.toList_some, List.map_cons, List.map_nil,
        List.forall_mem_singleton]
      · decide
      · decide
      · decide
      · simp [tagEscapeCodes]
      · exact hplain

theorem Writable.sendable (h : s.Writable appendFloat) (hpt : s.point = some pt) :
    ∀ f ∈ pt.fields, Sendable appendFloat f.2 := by
  cases s with
  | pod u entry =>
      have hcpu := h.cpu u entry rfl
      dsimp only [point, podPoint] at hpt
      obtain rfl := eq_of_newPoint hpt
      simp [Sendable, hcpu]
  | _ =>
      dsimp only [point, gpuPoint, nodePoint, shortNodePoint] at hpt
      obtain rfl := eq_of_newPoint hpt
      simp [Sendable]

theorem Writable.sendablePoint (h : s.Writable appendFloat) (hpt : s.point = some pt) :
    SendablePoint appendFloat pt := by
  obtain ⟨hnew, hnames⟩ := newPoint_of_point hpt
  refine sendablePoint_of_newPoint hnew s.writableName_measurement h.sendableTags
    s.length_tags_lt ?_ ?_ (h.sendable hpt)
  · rw [hnames]
    exact (List.nodup_cons.mp s.names_nodup).2
  · rw [hnames]
    exact s.names_bare

end Writable

end Source

/-! ## Its bytes -/

/-- A write, with the time of `time.Now()` in nanoseconds. -/
structure Sent where
  source : Source
  time : Int64

/-- `"0"` is what `strconv` writes for zero. -/
theorem floatText_zero : FloatText "0".toList 0 :=
  ⟨⟨[], ['0'], [], rfl, Or.inl rfl, by decide, by simp, Or.inl rfl⟩, by decide +kernel⟩

namespace Sent

/-- The point of the batch, `none` when `NewPoint` refuses it. -/
def stamped (s : Sent) : Option Stamped := s.source.point.map fun pt => ⟨pt, some s.time⟩

/-- The body of the request.  The precision of every batch is `"s"`. -/
def body (appendFloat : ℚ → Text) (s : Sent) : Text := writeBody appendFloat "s" [s.stamped]

/-- What its bytes are parsed into. -/
def received (appendFloat : ℚ → Text) (defaultTime : Int64) (s : Sent) : ParsedPoints :=
  parsePoints defaultTime "s" (s.body appendFloat)

/-- The second in which it was written. -/
def second (s : Sent) : Int64 := s.time / 1000000000

structure Writable (appendFloat : ℚ → Text) (s : Sent) : Prop where
  source : s.source.Writable appendFloat
  time : InTime s.time

section Received

variable {appendFloat : ℚ → Text} {s : Sent}

theorem Writable.received_eq (h : s.Writable appendFloat) (defaultTime : Int64) :
    s.received appendFloat defaultTime =
      { points := s.stamped.toList.map (sentPoint appendFloat "s" defaultTime) } := by
  cases hpt : s.source.point with
  | none =>
      rw [received, body, stamped, hpt]
      exact parsePoints_eq (by simp) (by simp) defaultTime
  | some pt =>
      rw [received, body, stamped, hpt]
      refine parsePoints_eq ?_ ?_ defaultTime
      · intro p hp
        obtain rfl := List.mem_singleton.mp hp
        exact h.source.sendablePoint hpt
      · intro p hp t ht
        obtain rfl := List.mem_singleton.mp hp
        exact Option.some.inj ht ▸ h.time

/-- Nothing of a write is refused, and the row that comes of its bytes is the row of its
point, in whole seconds. -/
theorem rows_body (h : s.Writable appendFloat) (huuid : s.source.uuid ≠ some "")
    (defaultTime : Int64) (printFloat : ℚ → String) (printTime : Int64 → Cell) :
    (s.received appendFloat defaultTime).panicked = false ∧
      (s.received appendFloat defaultTime).failed = [] ∧
      (s.received appendFloat defaultTime).points.map
          (fun q => q.row printFloat (printTime q.time)) =
        s.source.point.toList.map fun pt =>
          .ok (selectStar printFloat (printTime (s.second * 1000000000)) pt) := by
  rw [h.received_eq]
  refine ⟨rfl, rfl, ?_⟩
  cases hpt : s.source.point with
  | none => simp [stamped, hpt]
  | some pt =>
      obtain ⟨hnew, hnames⟩ := Source.newPoint_of_point hpt
      have htags : pt.tags = s.source.tags := congrArg Point.tags (eq_of_newPoint hnew)
      have hcarries : Carries "s" defaultTime ⟨pt, some s.time⟩ _ :=
        carries_sentPoint (h.source.sendablePoint hpt) defaultTime
      have hrow := row_of_carries hcarries printFloat (printTime (s.second * 1000000000))
        (by rw [htags, hnames]; exact s.source.keys_nodup)
        (by rw [htags]; exact Source.value_ne_empty huuid)
        (fun f hf => (h.source.sendable hpt f hf).exists_fieldValue)
      simp only [stamped, hpt, Option.map_some, Option.toList_some, List.map_cons, List.map_nil]
      exact congrArg (fun row => [row]) hrow

/-- A pod on a GPU whose UUID is two words. -/
theorem rows_body_of_quoted_pod :
    let s : Sent := ⟨.pod "GPU 0" { podName := "a\"b", podMemory := 7 }, 1700000000123456789⟩
    (s.received (fun _ => "0".toList) 0).panicked = false ∧
      (s.received (fun _ => "0".toList) 0).failed = [] ∧
      (s.received (fun _ => "0".toList) 0).points.map
          (fun q => q.row (fun _ => "0") (.number (formatInt q.time))) =
        s.source.point.toList.map fun pt =>
          .ok (selectStar (fun _ => "0") (.number (formatInt (s.second * 1000000000))) pt) := by
  intro s
  refine rows_body ⟨⟨?_, ?_⟩, by decide⟩ (by decide) 0 (fun _ => "0")
    fun t => .number (formatInt t)
  · rintro u ⟨⟩
    decide
  · rintro u entry ⟨⟩
    exact floatText_zero

/-! ## What tells two writes apart -/

/-- The series and the time that a write is stored under. -/
def identity (s : Sent) : Text × Int64 :=
  (makeKey s.source.measurement.toList (newTags s.source.tags), s.second * 1000000000)

theorem identity_received (h : s.Writable appendFloat) (defaultTime : Int64) :
    (s.received appendFloat defaultTime).points.map Parsed.identity =
      s.source.point.toList.map fun _ => s.identity := by
  rw [h.received_eq]
  cases hpt : s.source.point with
  | none => simp [stamped, hpt]
  | some pt =>
      obtain ⟨hnew, -⟩ := Source.newPoint_of_point hpt
      have hpoint := eq_of_newPoint hnew
      simp only [stamped, hpt, Option.map_some, Option.toList_some, List.map_cons, List.map_nil]
      rw [Parsed.identity, sentPoint, hpoint]
      rfl

theorem second_eq_iff {s' : Sent} (h : InTime s.time) (h' : InTime s'.time) :
    s.second * 1000000000 = s'.second * 1000000000 ↔ s.second = s'.second := by
  constructor
  · intro heq
    have hdiv := congrArg (· / (1000000000 : Int64)) heq
    have hself : ∀ {t : Int64}, InTime t →
        t / getPrecisionMultiplier "s" * getPrecisionMultiplier "s" / getPrecisionMultiplier "s" =
          t / getPrecisionMultiplier "s" := mul_div_multiplier
    exact (hself h).symm.trans (hdiv.trans (hself h'))
  · intro heq
    rw [heq]

theorem identity_of_mem {defaultTime : Int64} {q : Parsed} (h : s.Writable appendFloat)
    (hq : q ∈ (s.received appendFloat defaultTime).points) : q.identity = s.identity := by
  have hmem := List.mem_map_of_mem (f := Parsed.identity) hq
  rw [identity_received h] at hmem
  obtain ⟨pt, -, heq⟩ := List.mem_map.mp hmem
  exact heq.symm

/-- Two points are one to the database exactly when they were written to one measurement
under one UUID within one second.  What they are about otherwise plays no part. -/
theorem identity_eq_iff {s' : Sent} {defaultTime : Int64} {q q' : Parsed}
    (h : s.Writable appendFloat) (h' : s'.Writable appendFloat)
    (hq : q ∈ (s.received appendFloat defaultTime).points)
    (hq' : q' ∈ (s'.received appendFloat defaultTime).points) :
    q.identity = q'.identity ↔
      s.source.measurement = s'.source.measurement ∧ s.source.uuid = s'.source.uuid ∧
        s.second = s'.second := by
  have hkey := makeKey_eq_iff s.source.writableName_measurement s'.source.writableName_measurement
    h.source.sendableTags h'.source.sendableTags
  rw [identity_of_mem h hq, identity_of_mem h' hq', identity, identity, Prod.mk.injEq, hkey,
    second_eq_iff h.time h'.time, and_assoc]
  refine and_congr_right fun hmeasurement => ?_
  rw [Source.tags_perm_iff hmeasurement]

/-- Two pods of one GPU, eight tenths of a second apart. -/
theorem identity_of_two_pods :
    let s : Sent := ⟨.pod "GPU-0" { podName := "a" }, 1700000000100000000⟩
    let s' : Sent := ⟨.pod "GPU-0" { podName := "b" }, 1700000000900000000⟩
    ∃ q q', (s.received (fun _ => "0".toList) 0).points = [q] ∧
      (s'.received (fun _ => "0".toList) 0).points = [q'] ∧ q.identity = q'.identity := by
  intro s s'
  have hwritable : ∀ name time, InTime time →
      Sent.Writable (fun _ => "0".toList) ⟨.pod "GPU-0" { podName := name }, time⟩ := by
    intro name time htime
    refine ⟨⟨?_, ?_⟩, htime⟩
    · rintro u ⟨⟩
      decide
    · rintro u entry ⟨⟩
      exact floatText_zero
  have hs : s.Writable _ := hwritable "a" _ (by decide)
  have hs' : s'.Writable _ := hwritable "b" _ (by decide)
  obtain ⟨q, hq⟩ : ∃ q, (s.received (fun _ => "0".toList) 0).points = [q] :=
    ⟨_, congrArg ParsedPoints.points (hs.received_eq 0)⟩
  obtain ⟨q', hq'⟩ : ∃ q', (s'.received (fun _ => "0".toList) 0).points = [q'] :=
    ⟨_, congrArg ParsedPoints.points (hs'.received_eq 0)⟩
  have hmem : q ∈ (s.received (fun _ => "0".toList) 0).points := hq ▸ List.mem_singleton_self q
  have hmem' : q' ∈ (s'.received (fun _ => "0".toList) 0).points :=
    hq' ▸ List.mem_singleton_self q'
  exact ⟨q, q', hq, hq', (identity_eq_iff hs hs' hmem hmem').mpr ⟨rfl, rfl, by decide⟩⟩

theorem names_of_mem {defaultTime : Int64} {q : Parsed} (h : s.Writable appendFloat)
    (hq : q ∈ (s.received appendFloat defaultTime).points) :
    (q.storedFields.map Prod.fst).Perm s.source.names := by
  rw [h.received_eq] at hq
  obtain ⟨p, hp, rfl⟩ := List.mem_map.mp hq
  obtain ⟨pt, hpt, rfl⟩ := Option.map_eq_some_iff.mp (Option.mem_toList.mp hp)
  have hcarries : Carries "s" defaultTime ⟨pt, some s.time⟩ _ :=
    carries_sentPoint (h.source.sendablePoint hpt) defaultTime
  have hnames := names_of_carries hcarries
    fun f hf => (h.source.sendable hpt f hf).exists_fieldValue
  rwa [(Source.newPoint_of_point hpt).2] at hnames

end Received

end Sent

/-! ## The write loop -/

/-- Whether `NewPoint` takes a pod depends on the UUID only. -/
theorem podPoint_eq_none_iff (uuid : String) (entry entry' : PodMetric) :
    podPoint uuid entry = none ↔ podPoint uuid entry' = none := by
  simp [podPoint, newPoint]

theorem writePods_eq {uuid : String} {gpuPod : List PodMetric} {podnum : Nat}
    {points : List (Option Point)} (h : writePods uuid gpuPod podnum = .ok points) :
    points = (gpuPod.take podnum).map (podPoint uuid) := by
  obtain ⟨hlength, hitems⟩ := mapM_eq_ok h
  rw [List.length_range] at hlength
  apply List.ext_getElem?
  intro i
  by_cases hi : i < podnum
  · obtain ⟨p, hp, hpoint⟩ := hitems i i (List.getElem?_range hi)
    obtain ⟨entry, hentry, hp⟩ := bind_eq_ok.mp hp
    rw [hpoint, List.getElem?_map, List.getElem?_take_of_lt hi, index_eq_ok.mp hentry,
      Option.map_some]
    exact congrArg some (Except.ok.inj hp).symm
  · have htake : (gpuPod.take podnum).length ≤ i := by
      rw [List.length_take]
      omega
    rw [List.getElem?_eq_none (by omega), List.getElem?_map, List.getElem?_eq_none htake]
    rfl

/-- The bodies of the loop, the `i`-th one written at `clock i`. -/
def podBodies (appendFloat : ℚ → Text) (clock : Nat → Int64) (points : List (Option Point)) :
    List Text :=
  points.mapIdx fun i p => writeBody appendFloat "s" [p.map fun pt => ⟨pt, some (clock i)⟩]

/-- A body as the database takes it in, point by point. -/
def receive {Db : Type} (put : Db → Parsed → Db) (defaultTime : Int64) (db : Db) (body : Text) :
    Db :=
  (parsePoints defaultTime "s" body).points.foldl put db

/-- The writes of the loop. -/
def podWrites (uuid : String) (clock : Nat → Int64) (entries : List PodMetric) : List Sent :=
  entries.mapIdx fun i entry => ⟨.pod uuid entry, clock i⟩

section Loop

variable {Db : Type} {put : Db → Parsed → Db}
  {read : Db → Text × Int64 → String → Option FieldValue} {appendFloat : ℚ → Text}

theorem podBodies_eq (uuid : String) (clock : Nat → Int64) (entries : List PodMetric) :
    podBodies appendFloat clock (entries.map (podPoint uuid)) =
      (podWrites uuid clock entries).map (Sent.body appendFloat) := by
  apply List.ext_getElem?
  intro i
  rw [podBodies, podWrites, List.getElem?_mapIdx, List.getElem?_map, List.getElem?_map,
    List.getElem?_mapIdx, Option.map_map, Option.map_map]
  rfl

theorem foldl_receive (defaultTime : Int64) (writes : List Sent) (db : Db) :
    (writes.map (Sent.body appendFloat)).foldl (receive put defaultTime) db =
      (writes.flatMap fun s => (s.received appendFloat defaultTime).points).foldl put db := by
  rw [List.foldl_map, List.foldl_flatMap]
  rfl

/-- Writes that have one identity, the same names, and a point or none alike. -/
theorem writes_leave_last (hdb : Overwrite.Overwrites put read Parsed.identity
      Parsed.storedFields) {writes : List Sent} {last : Sent}
    (hwrites : ∀ s ∈ writes, s.Writable appendFloat ∧ s.identity = last.identity ∧
      s.source.names = last.source.names ∧ (s.source.point = none ↔ last.source.point = none))
    (hlast : last.Writable appendFloat) (defaultTime : Int64) (db : Db) :
    Overwrite.Alike read
      (((writes ++ [last]).map (Sent.body appendFloat)).foldl (receive put defaultTime) db)
      ([last.body appendFloat].foldl (receive put defaultTime) db) := by
  have hone : [last.body appendFloat].foldl (receive put defaultTime) db =
      (last.received appendFloat defaultTime).points.foldl put db := rfl
  rw [foldl_receive, hone, List.flatMap_append, List.flatMap_singleton]
  cases hpt : last.source.point with
  | none =>
      have hnone : ∀ s ∈ writes, (s.received appendFloat defaultTime).points = [] := by
        intro s hs
        obtain ⟨hs, -, -, hpoint⟩ := hwrites s hs
        rw [hs.received_eq, Sent.stamped, hpoint.mpr hpt]
        rfl
      rw [List.flatMap_eq_nil_iff.mpr hnone, List.nil_append]
      exact fun _ _ => rfl
  | some pt =>
      have hq : (last.received appendFloat defaultTime).points =
          [sentPoint appendFloat "s" defaultTime ⟨pt, some last.time⟩] := by
        rw [hlast.received_eq, Sent.stamped, hpt]
        rfl
      have hmem : sentPoint appendFloat "s" defaultTime ⟨pt, some last.time⟩ ∈
          (last.received appendFloat defaultTime).points := by
        rw [hq]
        exact List.mem_singleton_self _
      rw [hq]
      refine hdb.foldl_put ?_ db
      intro p hp
      obtain ⟨s, hs, hp⟩ := List.mem_flatMap.mp hp
      obtain ⟨hs, hidentity, hnames, -⟩ := hwrites s hs
      refine ⟨?_, ?_⟩
      · rw [Sent.identity_of_mem hs hp, hidentity, Sent.identity_of_mem hlast hmem]
      · intro k hk
        have hk' := (Sent.names_of_mem hs hp).mem_iff.mp hk
        rw [hnames] at hk'
        exact (Sent.names_of_mem hlast hmem).mem_iff.mpr hk'

/-- The pods of a GPU whose points are written within one second leave what the last of them
leaves alone. -/
theorem podBodies_leave_last (hdb : Overwrite.Overwrites put read Parsed.identity
      Parsed.storedFields) {uuid : String} {gpuPod : List PodMetric} {podnum : Nat}
    {points : List (Option Point)} (hrun : writePods uuid gpuPod podnum = .ok points)
    (huuid : Plain uuid.toList)
    (hcpu : ∀ entry ∈ gpuPod, FloatText (appendFloat entry.podCPU) entry.podCPU)
    {clock : Nat → Int64} {second : Int64}
    (hclock : ∀ i < podnum, InTime (clock i) ∧ clock i / 1000000000 = second)
    (defaultTime : Int64) (db : Db) :
    Overwrite.Alike read
      ((podBodies appendFloat clock points).foldl (receive put defaultTime) db)
      ((podBodies appendFloat clock points).getLast?.toList.foldl
        (receive put defaultTime) db) := by
  have hmem : ∀ s ∈ podWrites uuid clock (gpuPod.take podnum), ∃ entry ∈ gpuPod,
      s.source = .pod uuid entry ∧ InTime s.time ∧ s.second = second := by
    intro s hs
    obtain ⟨i, hi, rfl⟩ := List.mem_mapIdx.mp hs
    have hlt : i < podnum := by
      rw [List.length_take] at hi
      omega
    exact ⟨_, List.mem_of_mem_take (List.getElem_mem hi), rfl, hclock i hlt⟩
  have hwritable : ∀ s ∈ podWrites uuid clock (gpuPod.take podnum), s.Writable appendFloat := by
    intro s hs
    obtain ⟨entry, hentry, hsource, htime, -⟩ := hmem s hs
    refine ⟨hsource ▸ ⟨?_, ?_⟩, htime⟩
    · rintro u ⟨⟩
      exact huuid
    · rintro u e ⟨⟩
      exact hcpu entry hentry
  rw [writePods_eq hrun, podBodies_eq]
  obtain hnil | ⟨writes, last, hwrites⟩ :=
    List.eq_nil_or_concat (podWrites uuid clock (gpuPod.take podnum))
  · rw [hnil]
    exact fun _ _ => rfl
  · rw [List.concat_eq_append] at hwrites
    rw [hwrites] at hmem hwritable ⊢
    obtain ⟨e, -, hsource, -, hsecond⟩ := hmem last (by simp)
    have hlast : ((writes ++ [last]).map (Sent.body appendFloat)).getLast?.toList =
        [last.body appendFloat] := by simp
    rw [hlast]
    refine writes_leave_last hdb ?_ (hwritable last (by simp)) defaultTime db
    intro s hs
    have hs' : s ∈ writes ++ [last] := List.mem_append_left _ hs
    obtain ⟨e', -, hsource', -, hsecond'⟩ := hmem s hs'
    refine ⟨hwritable s hs', ?_, ?_, ?_⟩
    · rw [Sent.identity, Sent.identity, hsource, hsource', hsecond, hsecond']
      rfl
    · rw [hsource, hsource']
      rfl
    · rw [hsource, hsource']
      exact podPoint_eq_none_iff uuid e' e

/-- Of two pods the first is gone. -/
theorem podBodies_leave_second_of_two :
    let points := [podPoint "GPU-0" { podName := "a" }, podPoint "GPU-0" { podName := "b" }]
    let bodies := podBodies (fun _ => "0".toList)
      (fun i => if i = 0 then 1700000000100000000 else 1700000000900000000) points
    let put := receive (Overwrite.update Parsed.identity Parsed.storedFields) 0
    Overwrite.Alike (fun db => db) (bodies.foldl put fun _ _ => none)
      (bodies.getLast?.toList.foldl put fun _ _ => none) := by
  intro points bodies put
  have hrun : writePods "GPU-0" [{ podName := "a" }, { podName := "b" }] 2 = .ok points := rfl
  have hcpu : ∀ entry ∈ [{ podName := "a" }, ({ podName := "b" } : PodMetric)],
      FloatText "0".toList entry.podCPU := by
    intro entry hentry
    obtain rfl | rfl := by simpa using hentry
    all_goals exact floatText_zero
  have hclock : ∀ i < 2, InTime (if i = 0 then 1700000000100000000 else 1700000000900000000) ∧
      (if i = 0 then 1700000000100000000 else 1700000000900000000) / 1000000000 =
        (1700000000 : Int64) := by decide
  exact podBodies_leave_last (Overwrite.overwrites_update _ _) hrun (by decide) hcpu hclock 0 _

end Loop

end MetricCollector.Gpumpsmetric
