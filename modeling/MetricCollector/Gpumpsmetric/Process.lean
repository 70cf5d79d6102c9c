import MetricCollector.GoLib.Parallel
import MetricCollector.GoLib.Text
import MetricCollector.Grpcs

/-!
# The process snapshot

`getgpuprocess` lists the MPS processes of a GPU and reads the container of
each from its `cgroup` file.  Three slices come out of it, and the mapping
loop later addresses all three by one index.  Which container a process really
runs in is up to the host: the collector knows no more of it than the files say.

* `scanCgroup` is the inner loop over the lines of one file, as the source has
  it; `readCgroup` is what that loop contributes, and `scanCgroup_eq` says so.
* `getgpuprocess_eq` is the whole function in terms of the contributions.
* `snapshot_aligned_iff` says for which files the slices are parallel, and what that
  comes to when no file outside the pods gives an ID.
-/

namespace MetricCollector.Gpumpsmetric

open GoLib Parallel

/-- `nvml.ProcessInfo`, without the instance numbers. -/
structure ProcessInfo where
  pid : UInt32
  usedGpuMemory : UInt64
deriving DecidableEq, Repr

/-- The host of the collector. -/
structure Host where
  /-- The text of a file that can be opened and read. -/
  readFile : String → Option String
  /-- `nvml.SystemGetProcessName`, empty on an error. -/
  processName : UInt32 → String
  /-- The ID of the container that a process runs in, empty outside the pods.  No code
  sees it. -/
  container : UInt32 → String

/-- `processinfo`. -/
structure Processinfo where
  nvmlprocess : List ProcessInfo := []
  name : List String := []
  containerID : List String := []
deriving DecidableEq, Repr

/-- The lines a scanner yields on the process's `cgroup` file; a scanner over
the `nil` file yields none. -/
def Host.cgroup (host : Host) (pid : UInt32) : List String :=
  match host.readFile ("/proc/" ++ formatInteger pid.toNat ++ "/cgroup") with
  | some text => scanLines text
  | none => []

/-- The ways a turn of the line loop can end. -/
inductive CgroupLine where
  /-- `continue`: the line is of no pod. -/
  | other
  /-- A blank is appended, and the loop goes on. -/
  | shallow
  /-- The container is appended and counted, and the loop ends. -/
  | container (id : String)
deriving DecidableEq, Repr

/-- One turn of the line loop. -/
def cgroupLine (cgroup : String) : Exec CgroupLine := do
  let cgroups := split '/' cgroup
  let root ← index .getgpuprocess cgroups 1
  if root = "kubepods" ∨ root = "kubepods.slice" then
    if 3 < cgroups.length then
      let leaf ← index .getgpuprocess cgroups 4
      let tmpslice := split '-' leaf
      if 1 < tmpslice.length then
        let scope ← index .getgpuprocess tmpslice 1
        let id ← index .getgpuprocess (split '.' scope) 0
        return .container id
      else return .container leaf
    else return .shallow
  else return .other

/-- The line loop, from the container IDs appended and counted so far. -/
def scanCgroup (ids : List String) (mpscount : Nat) : List String → Exec (List String × Nat)
  | [] => return (ids, mpscount)
  | cgroup :: lines => do
      match ← cgroupLine cgroup with
      | .other => scanCgroup ids mpscount lines
      | .shallow => scanCgroup (ids ++ [""]) mpscount lines
      | .container id => return (ids ++ [id], mpscount + 1)

/-- One turn of the process loop. -/
def processTurn (host : Host) (acc : Processinfo × Nat) (process : ProcessInfo) :
    Exec (Processinfo × Nat) := do
  let (ids, mpscount) ← scanCgroup acc.1.containerID acc.2 (host.cgroup process.pid)
  return ({ acc.1 with
    containerID := ids
    name := acc.1.name ++ [host.processName process.pid] }, mpscount)

/-- `getgpuprocess` on the processes that NVML returned. -/
def getgpuprocess (host : Host) (processes : List ProcessInfo) : Exec (Processinfo × Nat) :=
  processes.foldlM (processTurn host) ({ nvmlprocess := processes }, 0)

/-! ## What one file contributes -/

/-- The blanks and the container that the lines of one file append. -/
def readCgroup : List String → Exec (Contribution String)
  | [] => return {}
  | cgroup :: lines => do
      match ← cgroupLine cgroup with
      | .other => readCgroup lines
      | .shallow =>
          let c ← readCgroup lines
          return { c with blanks := c.blanks + 1 }
      | .container id => return { entry := some id }

/-- The line loop appends what the file contributes, and counts its container. -/
theorem scanCgroup_eq (ids : List String) (mpscount : Nat) (lines : List String) :
    scanCgroup ids mpscount lines = (readCgroup lines >>= fun c =>
      .ok (ids ++ c.entries "", mpscount + c.entry.toList.length)) := by
  induction lines generalizing ids with
  | nil => simp [scanCgroup, readCgroup, Contribution.entries]
  | cons cgroup lines ih =>
      unfold scanCgroup readCgroup
      cases hline : cgroupLine cgroup with
      | error fault => rfl
      | ok line =>
          cases line with
          | other => exact ih ids
          | shallow =>
              show scanCgroup (ids ++ [""]) mpscount lines = _
              rw [ih]
              cases readCgroup lines with
              | error fault => rfl
              | ok c =>
                  simp only [ok_bind, pure_eq_ok, Contribution.entries, List.replicate_succ,
                    List.append_assoc, List.cons_append, List.nil_append]
          | container id =>
              simp [Contribution.entries]

/-- The contribution of a process. -/
def Host.contribution (host : Host) (process : ProcessInfo) : Exec (Contribution String) :=
  readCgroup (host.cgroup process.pid)

/-- The container IDs of a snapshot are what its processes contributed. -/
def snapshotOf (host : Host) (processes : List ProcessInfo) (cs : List (Contribution String)) :
    Processinfo where
  nvmlprocess := processes
  name := processes.map fun process => host.processName process.pid
  containerID := recorded "" cs

/-- How many processes have a container. -/
def countEntries (cs : List (Contribution String)) : Nat :=
  (cs.map fun c => c.entry.toList.length).sum

theorem processLoop_eq (host : Host) (processes : List ProcessInfo) (acc : Processinfo × Nat) :
    processes.foldlM (processTurn host) acc =
      (processes.mapM host.contribution >>= fun cs =>
        .ok ({ acc.1 with
          containerID := acc.1.containerID ++ recorded "" cs
          name := acc.1.name ++ processes.map fun process => host.processName process.pid },
          acc.2 + countEntries cs)) := by
  induction processes generalizing acc with
  | nil => simp [countEntries]
  | cons process processes ih =>
      have hturn : processTurn host acc process = (host.contribution process >>= fun c =>
          .ok ({ acc.1 with
            containerID := acc.1.containerID ++ c.entries ""
            name := acc.1.name ++ [host.processName process.pid] },
            acc.2 + c.entry.toList.length)) := by
        unfold processTurn Host.contribution
        rw [scanCgroup_eq]
        cases readCgroup (host.cgroup process.pid) with
        | error fault => rfl
        | ok c => rfl
      rw [List.foldlM_cons, List.mapM_cons, hturn]
      cases host.contribution process with
      | error fault => rfl
      | ok c =>
          rw [ok_bind, ok_bind, ok_bind, ih]
          cases processes.mapM host.contribution with
          | error fault => rfl
          | ok cs => simp [countEntries, Nat.add_assoc]

/-- The snapshot is what the files contribute, and the count is the number of
processes with a container. -/
theorem getgpuprocess_eq (host : Host) (processes : List ProcessInfo) :
    getgpuprocess host processes = (processes.mapM host.contribution >>= fun cs =>
      .ok (snapshotOf host processes cs, countEntries cs)) := by
  unfold getgpuprocess snapshotOf
  rw [processLoop_eq]
  simp

/-! ## When the slices are parallel -/

/-- The containers of the processes. -/
def Host.containers (host : Host) (processes : List ProcessInfo) : List String :=
  processes.map fun process => host.container process.pid

/-- The three slices have one entry for each process, and the container ID at
an index is the container of the process there. -/
structure Aligned (host : Host) (processes : List ProcessInfo) (mps : Processinfo) : Prop where
  nvmlprocess : mps.nvmlprocess = processes
  names : mps.name.length = processes.length
  containers : mps.containerID.length = processes.length
  own : ∀ (k : Nat) process, processes[k]? = some process →
    mps.containerID[k]? = some (host.container process.pid)

/-- A snapshot is aligned when its container IDs are those of the processes. -/
theorem aligned_iff {host : Host} {processes : List ProcessInfo}
    {cs : List (Contribution String)} :
    Aligned host processes (snapshotOf host processes cs) ↔
      recorded "" cs = host.containers processes := by
  constructor
  · intro h
    have hlength : (recorded "" cs).length = processes.length := h.containers
    apply List.ext_getElem?
    intro k
    rw [Host.containers, List.getElem?_map]
    by_cases hk : k < processes.length
    · have hprocess := List.getElem?_eq_getElem hk
      rw [hprocess]
      exact h.own k _ hprocess
    · rw [List.getElem?_eq_none (by omega), List.getElem?_eq_none (by omega)]
      rfl
  · intro h
    refine ⟨rfl, List.length_map _, ?_, ?_⟩
    · show (recorded "" cs).length = _
      rw [h, Host.containers, List.length_map]
    · intro k process hk
      show (recorded "" cs)[k]? = _
      rw [h, Host.containers, List.getElem?_map, hk]
      rfl

/-- No file of a process outside the pods gives a container ID. -/
def Host.OnlyPodFiles (host : Host) (processes : List ProcessInfo) : Prop :=
  ∀ process ∈ processes, ∀ c, host.contribution process = .ok c →
    c.entry.getD "" ≠ "" → host.container process.pid ≠ ""

/-- Then the slices are parallel only if each file gives the container of its process. -/
theorem aligned_iff_of_onlyPodFiles {host : Host} {processes : List ProcessInfo}
    (hfiles : host.OnlyPodFiles processes) {cs : List (Contribution String)}
    (hcs : processes.mapM host.contribution = .ok cs) :
    Aligned host processes (snapshotOf host processes cs) ↔
      intended "" cs = host.containers processes ∧ Balanced "" cs := by
  rw [aligned_iff]
  apply recorded_eq_iff_balanced
  obtain ⟨hlength, hitems⟩ := mapM_eq_ok hcs
  refine List.forall₂_iff_get.mpr ⟨by simp [intended, Host.containers, hlength], ?_⟩
  intro k hk _ hentry
  have hk' : k < processes.length := by rwa [intended, List.length_map, hlength] at hk
  obtain ⟨c, hc, hcs'⟩ := hitems k processes[k] (List.getElem?_eq_getElem hk')
  have hid : (intended "" cs)[k]? = some (c.entry.getD "") := by
    simp only [intended, List.getElem?_map, hcs', Option.map_some]
  rw [List.get_eq_getElem, (List.getElem?_eq_some_iff.mp hid).2] at hentry
  simpa [Host.containers] using hfiles _ (List.getElem_mem hk') c hc hentry

/-- `getgpuprocess` returns, with the three slices parallel. -/
def SnapshotAligned (host : Host) (processes : List ProcessInfo) : Prop :=
  ∃ mps mpscount, getgpuprocess host processes = .ok (mps, mpscount) ∧ Aligned host processes mps

theorem snapshotAligned_iff_exists {host : Host} {processes : List ProcessInfo} :
    SnapshotAligned host processes ↔ ∃ cs, processes.mapM host.contribution = .ok cs ∧
      Aligned host processes (snapshotOf host processes cs) := by
  unfold SnapshotAligned
  rw [getgpuprocess_eq]
  constructor
  · intro h
    rcases h with ⟨mps, mpscount, hrun, haligned⟩
    rcases bind_eq_ok.mp hrun with ⟨cs, hcs, hmps⟩
    cases hmps
    exact ⟨cs, hcs, haligned⟩
  · intro h
    rcases h with ⟨cs, hcs, haligned⟩
    refine ⟨snapshotOf host processes cs, countEntries cs, ?_, haligned⟩
    rw [hcs, ok_bind]

/-- The slices are parallel when every file is read without a fault and the container
IDs that the files append have their places at processes of just these containers.
With no ID from outside the pods this says that each file gives the container of its
process and that the blanks stand exactly where a process has none. -/
theorem snapshot_aligned_iff (host : Host) (processes : List ProcessInfo) :
    (SnapshotAligned host processes ↔ ∃ cs, processes.mapM host.contribution = .ok cs ∧
      Placed "" cs (host.containers processes)) ∧
    (host.OnlyPodFiles processes →
      (SnapshotAligned host processes ↔ ∃ cs, processes.mapM host.contribution = .ok cs ∧
        intended "" cs = host.containers processes ∧ Balanced "" cs)) := by
  constructor
  · rw [snapshotAligned_iff_exists]
    apply exists_congr
    intro cs
    rw [aligned_iff, recorded_eq_iff]
  · intro hfiles
    rw [snapshotAligned_iff_exists]
    apply exists_congr
    intro cs
    apply and_congr_right
    intro hcs
    exact aligned_iff_of_onlyPodFiles hfiles hcs

/-- A host where process 2 runs in a container and every other outside one. -/
def mixedHost : Host where
  readFile path :=
    if path = "/proc/2/cgroup" then some "1:cpu:/kubepods/besteffort/pod7/abc\n"
    else some "1:cpu:/system.slice/nvidia.service\n"
  processName _ := "python"
  container pid := if pid = 2 then "abc" else ""

/-- A process outside the pods shifts the container of the one after it. -/
theorem snapshot_shifted_by_host_process :
    ∃ mps mpscount, getgpuprocess mixedHost [⟨1, 10⟩, ⟨2, 20⟩] = .ok (mps, mpscount) ∧
      mps.containerID = ["abc"] ∧ ¬Aligned mixedHost [⟨1, 10⟩, ⟨2, 20⟩] mps := by
  have hrun : getgpuprocess mixedHost [⟨1, 10⟩, ⟨2, 20⟩] =
      .ok (⟨[⟨1, 10⟩, ⟨2, 20⟩], ["python", "python"], ["abc"]⟩, 1) := by
    decide
  refine ⟨_, _, hrun, rfl, ?_⟩
  intro h
  exact absurd h.containers (by decide)

end MetricCollector.Gpumpsmetric
