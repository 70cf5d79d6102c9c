import MetricCollector.Gpumpsmetric.Process

/-!
# The container of a cgroup line

`getgpuprocess` takes a container ID out of a cgroup line by position: the fifth
part of the path, and of that its second part between hyphens.  A cgroup path
has the QoS directory or not, and its last directory names the runtime or not.

* `PodLine` is a line of a pod's container in all of these forms.
* `extracted_iff` says for which of them the ID is the one recorded, and
  `cgroupLine_returns_iff` says on which lines the positions exist.
* `reads_iff` says when a whole file gives the ID of its container.
* `extraction_iff` is the first two of them.
-/

namespace MetricCollector.Gpumpsmetric

open GoLib

/-! ## Lines -/

/-- The line of a container: `hierarchy:/root/qos/pod/leaf`, where `qos` may be
missing and the leaf is `id` or `runtime-id.scope`. -/
structure PodLine where
  hierarchy : String
  root : String
  qos : Option String
  pod : String
  /-- `none` when the leaf is the bare ID. -/
  runtime : Option String
  id : String
  root_eq : root = "kubepods" ∨ root = "kubepods.slice"
  noSlash : ∀ part ∈ [hierarchy, pod, id] ++ qos.toList ++ runtime.toList, '/' ∉ part.toList
  noHyphen : '-' ∉ id.toList
  noDot : '.' ∉ id.toList

/-- The last directory. -/
def PodLine.leaf (form : PodLine) : String :=
  match form.runtime with
  | none => form.id
  | some runtime => runtime ++ "-" ++ (form.id ++ "." ++ "scope")

/-- The parts of the line between its slashes. -/
def PodLine.parts (form : PodLine) : List String :=
  [form.hierarchy ++ ":", form.root] ++ form.qos.toList ++ [form.pod, form.leaf]

/-- The line itself. -/
def PodLine.line (form : PodLine) : String := "/".intercalate form.parts

/-- The line loop appends exactly this ID and counts it, which is also the ID
that a container status with any scheme is compared by. -/
structure Extracted (line id : String) : Prop where
  records : ∀ ids mpscount rest,
    scanCgroup ids mpscount (line :: rest) = .ok (ids ++ [id], mpscount + 1)
  compared : ∀ scheme : String, '/' ∉ scheme.toList →
    index Frame.gpumpsmetric (split '/' (scheme ++ "://" ++ id)) 2 = .ok id

/-- The QoS directory is there, and a runtime with a hyphen in its name has the
ID itself behind it. -/
def PodLine.Readable (form : PodLine) : Prop :=
  form.qos.isSome ∧ ∀ runtime, form.runtime = some runtime →
    ∀ second, (split '-' runtime)[1]? = some second → (split '.' second)[0]? = some form.id

/-- The line has a slash, and if it is a pod's, then not four parts. -/
def InRange (line : String) : Prop :=
  ∃ root, (split '/' line)[1]? = some root ∧
    ((root = "kubepods" ∨ root = "kubepods.slice") → (split '/' line).length ≠ 4)

/-! ## The leaf -/

/-- What a turn of the line loop takes out of the leaf. -/
def leafID (leaf : String) : String :=
  match split '-' leaf with
  | _ :: second :: _ => (split '.' second).headD ""
  | _ => leaf

theorem leafID_of_not_mem {leaf : String} (h : '-' ∉ leaf.toList) : leafID leaf = leaf := by
  unfold leafID
  rw [split_of_not_mem h]

/-- The second part between hyphens is of the runtime's name if it has one. -/
theorem leafID_scope_iff (runtime : String) {id : String} (hhyphen : '-' ∉ id.toList)
    (hdot : '.' ∉ id.toList) :
    leafID (runtime ++ "-" ++ (id ++ "." ++ "scope")) = id ↔
      ∀ second, (split '-' runtime)[1]? = some second → (split '.' second)[0]? = some id := by
  have hscope : split '-' (id ++ "." ++ "scope") = [id ++ "." ++ "scope"] := by
    apply split_of_not_mem
    simp [hhyphen]
  have hid : split '.' (id ++ "." ++ "scope") = [id, "scope"] := by
    have happend := split_append '.' id "scope"
    rw [split_of_not_mem hdot] at happend
    exact happend
  have hleaf : split '-' (runtime ++ "-" ++ (id ++ "." ++ "scope")) =
      split '-' runtime ++ [id ++ "." ++ "scope"] := by
    have happend := split_append '-' runtime (id ++ "." ++ "scope")
    rw [hscope] at happend
    exact happend
  unfold leafID
  rw [hleaf]
  cases hruntime : split '-' runtime with
  | nil => exact absurd hruntime (split_ne_nil '-' runtime)
  | cons first rest =>
      cases rest with
      | nil => simp [hid]
      | cons second rest =>
          cases hsecond : split '.' second with
          | nil => exact absurd hsecond (split_ne_nil '.' second)
          | cons head tail => simp [hsecond]

theorem PodLine.leafID_leaf_iff (form : PodLine) :
    leafID form.leaf = form.id ↔ ∀ runtime, form.runtime = some runtime →
      ∀ second, (split '-' runtime)[1]? = some second → (split '.' second)[0]? = some form.id := by
  unfold PodLine.leaf
  cases hruntime : form.runtime with
  | none => simp [leafID_of_not_mem form.noHyphen]
  | some runtime => simp [leafID_scope_iff runtime form.noHyphen form.noDot]

/-! ## One turn of the line loop -/

/-- The end of a turn that has found the leaf. -/
theorem leafTurn_eq (leaf : String) :
    (if 1 < (split '-' leaf).length then do
        let scope ← index .getgpuprocess (split '-' leaf) 1
        let id ← index .getgpuprocess (split '.' scope) 0
        return .container id
      else return .container leaf : Exec CgroupLine) = .ok (.container (leafID leaf)) := by
  unfold leafID
  cases split '-' leaf with
  | nil => rfl
  | cons first rest =>
      cases rest with
      | nil => rfl
      | cons second rest =>
          rw [if_pos (by simp)]
          show (index Frame.getgpuprocess (split '.' second) 0 >>= fun id =>
            (.ok (CgroupLine.container id) : Exec CgroupLine)) =
              .ok (.container ((split '.' second).headD ""))
          cases hsecond : split '.' second with
          | nil => exact absurd hsecond (split_ne_nil '.' second)
          | cons head tail => rfl

/-- A turn, from the root of the path. -/
theorem cgroupLine_of_root {line root : String} (h : (split '/' line)[1]? = some root) :
    cgroupLine line =
      if root = "kubepods" ∨ root = "kubepods.slice" then
        if 3 < (split '/' line).length then
          index .getgpuprocess (split '/' line) 4 >>= fun leaf => .ok (.container (leafID leaf))
        else .ok .shallow
      else .ok .other := by
  unfold cgroupLine
  dsimp only
  rw [index_of_getElem? h, ok_bind]
  simp only [leafTurn_eq]
  rfl

/-- The positions exist on the lines in range, and on no others. -/
theorem cgroupLine_returns_iff (line : String) :
    (∃ result, cgroupLine line = .ok result) ↔ InRange line := by
  cases hroot : (split '/' line)[1]? with
  | none =>
      have hfault : cgroupLine line = .error ⟨.indexOutOfRange, .getgpuprocess⟩ := by
        unfold cgroupLine
        dsimp only
        rw [index_of_le (List.getElem?_eq_none_iff.mp hroot), error_bind]
      simp [hfault, InRange, hroot]
  | some root =>
      have hrange : InRange line ↔
          ((root = "kubepods" ∨ root = "kubepods.slice") → (split '/' line).length ≠ 4) := by
        simp [InRange, hroot]
      rw [cgroupLine_of_root hroot, hrange]
      by_cases hpods : root = "kubepods" ∨ root = "kubepods.slice"
      · rw [if_pos hpods]
        by_cases hdeep : 3 < (split '/' line).length
        · rw [if_pos hdeep]
          by_cases hfour : (split '/' line).length = 4
          · rw [index_of_le hfour.le, error_bind]
            simp [hpods, hfour]
          · have hfive : 4 < (split '/' line).length := by omega
            rcases exists_index_of_lt Frame.getgpuprocess hfive with ⟨leaf, hleaf⟩
            rw [hleaf, ok_bind]
            exact iff_of_true ⟨_, rfl⟩ fun _ => hfour
        · rw [if_neg hdeep]
          exact iff_of_true ⟨_, rfl⟩ fun _ => by omega
      · rw [if_neg hpods]
        exact iff_of_true ⟨_, rfl⟩ fun h => absurd h hpods

/-- The loop records an ID when the turn ends with it. -/
theorem records_iff {line id : String} :
    (∀ ids mpscount rest,
      scanCgroup ids mpscount (line :: rest) = .ok (ids ++ [id], mpscount + 1)) ↔
    cgroupLine line = .ok (.container id) := by
  constructor
  · intro h
    have hrun := h [] 0 []
    unfold scanCgroup at hrun
    rcases bind_eq_ok.mp hrun with ⟨result, hresult, hrest⟩
    cases result with
    | other => cases hrest
    | shallow => cases hrest
    | container found =>
        cases hrest
        exact hresult
  · intro h ids mpscount rest
    unfold scanCgroup
    rw [h]
    rfl

/-! ## Every form of line -/

theorem PodLine.split_line (form : PodLine) : split '/' form.line = form.parts := by
  apply split_intercalate
  · have hnoSlash := form.noSlash
    have hroot : '/' ∉ form.root.toList := by
      rcases form.root_eq with h | h <;> rw [h] <;> decide
    have hleaf : '/' ∉ form.leaf.toList := by
      unfold PodLine.leaf
      cases hruntime : form.runtime with
      | none => exact hnoSlash _ (by simp)
      | some runtime =>
          have hname : '/' ∉ runtime.toList := hnoSlash _ (by simp [hruntime])
          have hid : '/' ∉ form.id.toList := hnoSlash _ (by simp)
          simp [hname, hid]
    have hhierarchy : '/' ∉ form.hierarchy.toList := hnoSlash _ (by simp)
    intro part hpart
    simp only [PodLine.parts, List.mem_append, List.mem_cons, List.not_mem_nil, or_false] at hpart
    rcases hpart with ((rfl | rfl) | hqos) | (rfl | rfl)
    · simp [hhierarchy]
    · exact hroot
    · exact hnoSlash part (by simp [hqos])
    · exact hnoSlash _ (by simp)
    · exact hleaf
  · simp [PodLine.parts]

theorem PodLine.cgroupLine_eq (form : PodLine) :
    cgroupLine form.line =
      if form.qos.isSome then .ok (.container (leafID form.leaf))
      else .error ⟨.indexOutOfRange, .getgpuprocess⟩ := by
  have hroot : (split '/' form.line)[1]? = some form.root := by
    rw [form.split_line]
    rfl
  rw [cgroupLine_of_root hroot, if_pos form.root_eq, form.split_line]
  unfold PodLine.parts
  cases form.qos with
  | none => rfl
  | some qos => rfl

/-- A file of a process in a pod's container gives the container's ID exactly if its
line is readable. -/
theorem PodLine.reads_iff (form : PodLine) {before : List String}
    (hbefore : ∀ line ∈ before, cgroupLine line = .ok .other) (rest : List String) :
    readCgroup (before ++ form.line :: rest) = .ok { entry := some form.id } ↔
      form.Readable := by
  induction before with
  | nil =>
      rw [List.nil_append, readCgroup, form.cgroupLine_eq, PodLine.Readable,
        ← form.leafID_leaf_iff]
      by_cases hqos : form.qos.isSome
      · simp [hqos]
      · simp [hqos]
  | cons line before ih =>
      rw [List.cons_append, readCgroup, hbefore line List.mem_cons_self, ok_bind]
      exact ih fun other hother => hbefore other (List.mem_cons_of_mem line hother)

/-- The container that a status of any scheme is compared by. -/
theorem compared {scheme id : String} (hscheme : '/' ∉ scheme.toList) (hid : '/' ∉ id.toList) :
    index Frame.gpumpsmetric (split '/' (scheme ++ "://" ++ id)) 2 = .ok id := by
  have hjoin : scheme ++ "://" ++ id =
      (scheme ++ ":") ++ String.singleton '/' ++ ("" ++ String.singleton '/' ++ id) := by
    rw [← String.toList_inj]
    simp
  have hfirst : '/' ∉ (scheme ++ ":").toList := by simp [hscheme]
  rw [hjoin, split_append, split_append, split_of_not_mem hfirst, split_of_not_mem hid]
  rfl

theorem PodLine.extracted_iff (form : PodLine) :
    Extracted form.line form.id ↔ form.Readable := by
  have hid : '/' ∉ form.id.toList := form.noSlash _ (by simp)
  have hrecords : cgroupLine form.line = .ok (.container form.id) ↔ form.Readable := by
    rw [form.cgroupLine_eq, PodLine.Readable, ← form.leafID_leaf_iff]
    by_cases hqos : form.qos.isSome
    · simp [hqos]
    · simp [hqos]
  constructor
  · intro h
    exact hrecords.mp (records_iff.mp h.records)
  · intro h
    exact ⟨records_iff.mpr (hrecords.mpr h), fun scheme hscheme => compared hscheme hid⟩

/-- A line of a pod's container is read correctly exactly if it is readable, and
a line of any kind is read at all exactly if it is in range. -/
theorem extraction_iff (form : PodLine) (line : String) :
    (Extracted form.line form.id ↔ form.Readable) ∧
      ((∃ result, cgroupLine line = .ok result) ↔ InRange line) :=
  ⟨form.extracted_iff, cgroupLine_returns_iff line⟩

/-- A pod without a QoS directory. -/
def guaranteedLine : PodLine where
  hierarchy := "0:"
  root := "kubepods"
  qos := none
  pod := "pod7"
  runtime := none
  id := "abc"
  root_eq := by decide
  noSlash := by decide
  noHyphen := by decide
  noDot := by decide

/-- A pod whose runtime has a hyphen in its name. -/
def containerdLine : PodLine where
  hierarchy := "0:"
  root := "kubepods.slice"
  qos := some "kubepods-burstable.slice"
  pod := "kubepods-burstable-pod7.slice"
  runtime := some "cri-containerd"
  id := "abc"
  root_eq := by decide
  noSlash := by decide
  noHyphen := by decide
  noDot := by decide

/-- The one is recorded as `containerd`, and the other ends the collector. -/
theorem not_extracted :
    (¬∀ form : PodLine, Extracted form.line form.id) ∧
      ¬∀ line, ∃ result, cgroupLine line = .ok result := by
  constructor
  · intro h
    have hreadable := containerdLine.extracted_iff.mp (h containerdLine)
    have hsecond := hreadable.2 "cri-containerd" rfl "containerd" (by decide)
    exact absurd hsecond (by decide)
  · intro h
    rcases h guaranteedLine.line with ⟨result, hresult⟩
    rw [guaranteedLine.cgroupLine_eq] at hresult
    cases hresult

end MetricCollector.Gpumpsmetric
