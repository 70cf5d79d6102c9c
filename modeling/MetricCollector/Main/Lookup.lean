import MetricCollector.Main.Accounts
import MetricCollector.Main.InitData

/-!
# What a scheduler learns of a GPU

A scheduler calls `GetInitData` once and `GetGPU` from then on, with the UUIDs that
it was told.  Cycles, flushes and other calls go on between the two.

* `getGPU_of_listed` is the answer for a UUID that `main` has listed once.
* `lookup_stable` follows a UUID from the first message to a later call.
-/

namespace MetricCollector.Main

open GoLib Schedule Grpcs Storage Gpumpsmetric Nvlink Server

/-! ## One call -/

section Listed

variable {uuids : List String} {c : Collector}

/-- The first position of an item on a list without duplicates. -/
theorem findIdx?_of_nodup (hnodup : uuids.Nodup) {i : Nat} {uuid : String}
    (hget : uuids[i]? = some uuid) : uuids.findIdx? (· = uuid) = some i := by
  obtain ⟨hlt, rfl⟩ := List.getElem?_eq_some_iff.mp hget
  rw [List.findIdx?_eq_some_iff_getElem]
  refine ⟨hlt, by simp, ?_⟩
  intro j hj hsame
  have hsame : uuids[j] = uuids[i] := of_decide_eq_true hsame
  exact absurd (hnodup.getElem_inj_iff.mp hsame) (by omega)

/-- `GetGPU` finds the record that has the position of the UUID. -/
theorem getGPU_of_listed (h : Answerable c) (hgpuuuid : c.gpuuuid = uuids)
    (hnodup : uuids.Nodup) {i : Nat} {uuid : String} (huuid : uuids[i]? = some uuid)
    {gpu : GrpcGPU} (hgpu : c.node.nodeGPU[i]? = some gpu) :
    getGPU c uuid = .ok (some (currentPart (gpuMessage gpu)), c) := by
  rw [getGPU_of_answerable h uuid, hgpuuuid, findIdx?_of_nodup hnodup huuid, Option.bind_some,
    hgpu, Option.map_some]

/-- The entry of a record in the first message. -/
theorem initGPU_getElem? (h : Answerable c) (i : Nat) :
    (initMessage c).initGPU[i]? = c.node.nodeGPU[i]?.map gpuMessage := by
  show (c.node.nodeGPU.map fun gpu => gpuMessage (clamped gpu))[i]? = _
  rw [List.getElem?_map]
  cases hget : c.node.nodeGPU[i]? with
  | none => rfl
  | some gpu =>
      rw [Option.map_some, Option.map_some,
        clamped_of_counted (h.counted gpu (List.mem_of_getElem? hget))]

end Listed

/-! ## A call and a later one -/

section Runs

variable {Device : Type} {init : Bool} {nvml : Nvml Device} {profile : Device → Profile}
  {name : String} {v : Vars}

/-- The records keep their UUIDs over a run on the same GPUs. -/
theorem identified_of_run (hstart : startup init nvml profile name = .ok v)
    {events : List (Event Device)}
    (hsteady : ∀ event ∈ events, Steady (listed init nvml) event) {s : State}
    (hrun : run step { vars := v } events = some s) :
    Identified (listed init nvml) v.collector.node.nvLinkInfo s :=
  run_inv_of_along _ (fun _ _ _ h hstep hsteady => h.step hstep hsteady)
    (identified_start hstart) (along_of_forall hsteady _) hrun

/-- What a cycle has recorded stays recorded. -/
theorem recorded_of_step {s t : State} {event : Event Device} (h : step s event = some t) {i : Nat}
    (hi : s.recorded i = true) : t.recorded i = true := by
  have hexec : ∀ (s : State) (run : Exec Vars) (next : Vars → State), s.recorded i = true →
      (∀ w, (next w).recorded i = true) → (s.exec run next).recorded i = true := by
    intro s run next hs hnext
    rcases exec_cases s run next with ⟨w, -, hw⟩ | ⟨fault, -, hw⟩
    · rw [hw]
      exact hnext w
    · rw [hw]
      exact hs
  obtain ⟨-, hsteps⟩ := steps_of_step h
  cases hsteps with
  | collect readings data hmain => exact hi
  | flush j statement hmain => exact hexec s _ _ hi fun _ => hi
  | launchSampler init nvml hsampler => exact hi
  | sample info count j d hsampler hlt => exact hexec s _ _ hi fun _ => hi
  | launch k init nvml data hcycle => exact hi
  | turn k nvml reading data count j hcycle hlt =>
      refine hexec s _ _ hi fun _ => ?_
      show Function.update s.recorded j true i = true
      by_cases hij : i = j
      · subst hij
        exact Function.update_self _ _ _
      · rw [Function.update_of_ne hij]
        exact hi
  | finish k data count j hcycle => exact hi
  | serve event run hcall hserves => exact hexec s _ _ hi fun _ => hi

/-- A UUID of the first message finds its GPU at every later time: the answer is
what the first message would now say of the same entry. -/
theorem lookup_stable (hnodup : (listed init nvml).Nodup)
    (hstart : startup init nvml profile name = .ok v) {events later : List (Event Device)}
    (hsteady : ∀ event ∈ events ++ later, Steady (listed init nvml) event) {s t : State}
    (hrun : run step { vars := v } events = some s) (hlater : run step s later = some t) :
    ∃ first now c c', getInitData s.vars.collector = .ok (first, c) ∧
      getInitData t.vars.collector = .ok (now, c') ∧
      first.initGPU.length = now.initGPU.length ∧
      ∀ i entry, first.initGPU[i]? = some entry → s.recorded i = true →
        ∃ current, now.initGPU[i]? = some current ∧ current.gpuUuid = entry.gpuUuid ∧
          getGPU t.vars.collector entry.gpuUuid = .ok (some (currentPart current),
            t.vars.collector) := by
  have hboth : run step { vars := v } (events ++ later) = some t := by
    rw [run_append, hrun, Option.bind_some]
    exact hlater
  have hs := answerable_of_run hstart hrun
  have ht := answerable_of_run hstart hboth
  have hsIdentified := identified_of_run hstart
    (fun event hevent => hsteady event (List.mem_append_left later hevent)) hrun
  have htIdentified := identified_of_run hstart hsteady hboth
  have hlength : s.vars.gpus.length = t.vars.gpus.length :=
    hsIdentified.fixed.length.trans htIdentified.fixed.length.symm
  refine ⟨_, _, _, _, getInitData_of_answerable hs, getInitData_of_answerable ht, ?_, ?_⟩
  · show (s.vars.gpus.map _).length = (t.vars.gpus.map _).length
    rw [List.length_map, List.length_map, hlength]
  · intro i entry hentry hrecorded
    rw [initGPU_getElem? hs] at hentry
    obtain ⟨gpu, hgpu, rfl⟩ := Option.map_eq_some_iff.mp hentry
    have hlt : i < t.vars.gpus.length := by
      rw [← hlength]
      exact (List.getElem?_eq_some_iff.mp hgpu).1
    have hgpu' : t.vars.collector.node.nodeGPU[i]? = some t.vars.gpus[i] :=
      List.getElem?_eq_getElem hlt
    -- both records have the UUID that `main` has listed at their position
    have hlisted : i < (listed init nvml).length := by
      rw [← htIdentified.fixed.length]
      exact hlt
    have huuid : (listed init nvml)[i]? = some ((listed init nvml).getD i "") := by
      rw [List.getD_eq_getElem?_getD, List.getElem?_eq_getElem hlisted]
      rfl
    have hnamed : gpu.grpcGPUUUID = (listed init nvml).getD i "" := by
      rw [hsIdentified.named i gpu hgpu, if_pos hrecorded]
    have hlater' : t.recorded i = true :=
      run_inv (fun s => s.recorded i = true) (fun _ _ _ h hstep => recorded_of_step hstep h)
        hrecorded hlater
    have hnamed' : t.vars.gpus[i].grpcGPUUUID = (listed init nvml).getD i "" := by
      rw [htIdentified.named i _ hgpu', if_pos hlater']
    refine ⟨gpuMessage t.vars.gpus[i], ?_, hnamed'.trans hnamed.symm, ?_⟩
    · rw [initGPU_getElem? ht, hgpu', Option.map_some]
    · show getGPU _ gpu.grpcGPUUUID = _
      rw [hnamed]
      exact getGPU_of_listed ht htIdentified.fixed.gpuuuid hnodup huuid hgpu'

end Runs

/-- A scheduler that calls after one cycle and again after the next. -/
theorem lookup_stable_over_cycle :
    ∃ v s t first now c c', startup true oneGPU (fun _ => {}) "node" = .ok v ∧
      run step { vars := v } [.collect {} {}, .launch 0 true oneGPU,
        .turn 0 oneGPU idleReading] = some s ∧
      run step s ([.getInitData, .flush, .finish 0] : List (Event Unit)) = some t ∧
      getInitData s.vars.collector = .ok (first, c) ∧
      getInitData t.vars.collector = .ok (now, c') ∧
      first.initGPU.length = now.initGPU.length ∧
      ∀ i entry, first.initGPU[i]? = some entry → s.recorded i = true →
        ∃ current, now.initGPU[i]? = some current ∧ current.gpuUuid = entry.gpuUuid ∧
          getGPU t.vars.collector entry.gpuUuid = .ok (some (currentPart current),
            t.vars.collector) := by
  have hsteady : ∀ event ∈ ([.collect {} {}, .launch 0 true oneGPU, .turn 0 oneGPU idleReading] ++
      [.getInitData, .flush, .finish 0] : List (Event Unit)),
      Steady (listed true oneGPU) event := by
    intro event hevent
    simp only [List.cons_append, List.nil_append, List.mem_cons, List.not_mem_nil,
      or_false] at hevent
    rcases hevent with rfl | rfl | rfl | rfl | rfl | rfl
    · trivial
    · trivial
    · intro i hi
      have hone : i < 1 := hi
      obtain rfl : i = 0 := by omega
      rfl
    · trivial
    · trivial
    · trivial
  obtain ⟨first, now, c, c', h⟩ := @lookup_stable Unit true oneGPU (fun _ => {}) "node" _
    (by decide) rfl _ _ hsteady _ _ rfl rfl
  exact ⟨_, _, _, first, now, c, c', rfl, rfl, rfl, h⟩

end MetricCollector.Main
