import MetricCollector.Main.Accounts
import MetricCollector.Member

/-!
# From the kubelet to the schedulers

The main loop copies the figures of a collection to the node's record, from which the
calls of the schedulers are answered.  Cycles, samples, flushes and calls come in
between in any order, and none of them writes these fields.

* `readings_of_step` is one step, and `readings_of_run` is all that follow a
  collection.
* `node_reported` says what the schedulers are told, in terms of the summary.
* `node_reported_exactly` is the case of a complete summary, and
  `node_reported_as_idle` that of a kubelet that does not answer.
-/

namespace MetricCollector.Main

open GoLib Schedule Grpcs Storage Stats Nvlink Kubelet Decode CustomMetrics Member Server

/-! ## The fields of the node -/

/-- What the main loop makes of a collection. -/
def readingsOf (data : Collection) (figures : NodeFigures) : Readings where
  nanocpu := figures.nodecpu
  nodememory := figures.nodememory
  totalcpu := figures.totalcpu
  totalmemory := figures.totalmemory
  nodetotalstorage := figures.nodetotalstorage
  nodestorage := figures.nodestorage
  -- the figures were taken from the first batch, so that there is one
  networkRx := (data.metricsbatchs.headD {}).node.metricsPoint.networkRxBytes.getValue
  networkTx := (data.metricsbatchs.headD {}).node.metricsPoint.networkTxBytes.getValue

/-- The readings that a node has on record. -/
def recordedReadings (node : GrpcNode) : Readings where
  nanocpu := node.grpcNodeCPU
  nodememory := node.grpcNodeMemory
  totalcpu := node.grpcNodetotalCPU
  totalmemory := node.grpcNodeTotalMemory
  nodetotalstorage := node.grpcNodeTotalStorage
  nodestorage := node.grpcNodeStorage
  networkRx := node.nodeNetworkRX
  networkTx := node.nodeNetworkTX

/-- The readings of the process. -/
def Vars.readings (v : Vars) : Readings := recordedReadings v.collector.node

/-- The main loop has collected. -/
def Event.isCollect {Device : Type} : Event Device → Bool
  | .collect _ _ => true
  | _ => false

theorem readings_update (c : Collector) (r : Readings) :
    recordedReadings (c.update r).node = r := rfl

theorem readings_setTmp (v : Vars) (d : Direction) (i : Nat) (x : Int64) :
    (v.setTmp d i x).readings = v.readings := by
  cases d <;> rfl

/-- A call answers from the readings, and leaves them. -/
theorem readings_serve {c c' : Collector} (h : Served c c') :
    recordedReadings c'.node = recordedReadings c.node := by
  show recordedReadings (withoutGPUs c'.node) = recordedReadings (withoutGPUs c.node)
  rw [h.node]

/-- Code that leaves the readings, or faults. -/
theorem readings_exec {s : State} {run : Exec Vars} {next : Vars → State}
    (h : ∀ w, run = .ok w → w.readings = s.vars.readings ∧ (next w).vars = w) :
    (s.exec run next).vars.readings = s.vars.readings := by
  rcases exec_cases s run next with ⟨w, hrun, hnext⟩ | ⟨fault, -, hnext⟩
  · obtain ⟨hsame, hvars⟩ := h w hrun
    rw [hnext, hvars]
    exact hsame
  · rw [hnext]

/-- No step but a collection changes the readings. -/
theorem readings_of_step {Device : Type} {s t : State} {event : Event Device}
    (hother : event.isCollect = false) (h : step s event = some t) :
    t.vars.readings = s.vars.readings := by
  obtain ⟨-, hsteps⟩ := steps_of_step h
  cases hsteps with
  | collect readings data hmain => cases hother
  | flush i statement hmain =>
      refine readings_exec fun w hrun => ⟨?_, rfl⟩
      cases statement with
      | read d =>
          rcases bind_eq_ok.mp hrun with ⟨x, -, hrun⟩
          rcases bind_eq_ok.mp hrun with ⟨gpu, -, hrun⟩
          cases hrun
          rfl
      | reset d =>
          rcases bind_eq_ok.mp hrun with ⟨x, -, hrun⟩
          cases hrun
          exact readings_setTmp s.vars d i 0
  | launchSampler init nvml hsampler => rfl
  | sample info count i d hsampler hlt =>
      refine readings_exec fun w hrun => ⟨?_, rfl⟩
      obtain ⟨-, rfl⟩ := sample_eq_ok.mp hrun
      exact readings_setTmp s.vars d i _
  | launch k init nvml data hcycle => rfl
  | turn k nvml reading data count i hcycle hlt =>
      refine readings_exec fun w hrun => ⟨?_, rfl⟩
      obtain ⟨entry, gpu, out, -, -, -, rfl⟩ := gpumetricTurn_eq_ok hrun
      rfl
  | finish k data count i hcycle => rfl
  | serve event run hcall hserves =>
      refine readings_exec fun w hrun => ⟨?_, rfl⟩
      rcases bind_eq_ok.mp hrun with ⟨collector, hcollector, hw⟩
      cases hw
      exact readings_serve (hserves.leaves collector hcollector)

/-- After a collection its readings stay on record until the next one. -/
theorem readings_of_run {Device : Type} {s t : State} {readings : Readings} {data : Collection}
    {before after : List (Event Device)} (hafter : ∀ event ∈ after, event.isCollect = false)
    (hrun : run step s (before ++ .collect readings data :: after) = some t) :
    t.vars.readings = readings := by
  rw [run_append, Option.bind_eq_some_iff] at hrun
  obtain ⟨s₁, -, hrun⟩ := hrun
  rw [run_cons, Option.bind_eq_some_iff] at hrun
  obtain ⟨s₂, hcollect, hrun⟩ := hrun
  have hfirst : s₂.vars.readings = readings := by
    obtain ⟨-, hsteps⟩ := steps_of_step hcollect
    cases hsteps with
    | collect readings data hmain => exact readings_update _ readings
    | serve event run hcall hserves => cases hcall
  refine run_inv_of_along (fun s : State => s.vars.readings = readings) ?_ hfirst
    (along_of_forall hafter s₂) hrun
  intro s event t hs ht hother
  exact (readings_of_step hother ht).trans hs

/-! ## What the schedulers are told -/

/-- The use of the node in a message: CPU, memory and storage. -/
def uses (message : NodeMessage) : Int64 × Int64 × Int64 :=
  (message.nodeCpu, message.nodeMemory, message.nodeStorage)

/-- What there is of the node: CPU, memory and storage. -/
def totals (message : NodeMessage) : Int64 × Int64 × Int64 :=
  (message.nodeTotalcpu, message.nodeTotalmemory, message.nodeTotalstorage)

variable {Device : Type} {init : Bool} {nvml : Nvml Device} {profile : Device → Profile}
  {name : String} {v : Vars} {host : Host} {data : Collection} {figures : NodeFigures}
  {before after : List (Event Device)} {s : State}

/-- Both calls answer from what is on record. -/
theorem uses_of_readings {told : NodeFigures} (h : s.vars.readings = readingsOf data told) :
    uses (getNode s.vars.collector).1 = (told.nodecpu, told.nodememory, told.nodestorage) ∧
      uses (initMessage s.vars.collector).initNode =
        (told.nodecpu, told.nodememory, told.nodestorage) ∧
      totals (initMessage s.vars.collector).initNode =
        (told.totalcpu, told.totalmemory, told.nodetotalstorage) := by
  have hused : (s.vars.collector.node.grpcNodeCPU, s.vars.collector.node.grpcNodeMemory,
      s.vars.collector.node.grpcNodeStorage) = (told.nodecpu, told.nodememory, told.nodestorage) :=
    congrArg (fun r : Readings => (r.nanocpu, r.nodememory, r.nodestorage)) h
  refine ⟨?_, hused, ?_⟩
  · rw [← hused]
    unfold getNode
    dsimp only
    split_ifs <;> rfl
  · exact congrArg (fun r : Readings => (r.totalcpu, r.totalmemory, r.nodetotalstorage)) h

/-- Without storage on record `GetNode` sends none, whether it takes the total for
changed or not. -/
theorem nodeTotalstorage_of_none {c : Collector} (h : c.node.grpcNodeTotalStorage = 0) :
    (getNode c).1.nodeTotalstorage = 0 := by
  unfold getNode
  dsimp only
  split_ifs
  · exact h
  · rfl

section Runs

variable (hends : Ends host (.ok (data, figures)))
  (hafter : ∀ event ∈ after, event.isCollect = false)

include hends hafter

/-- What is on record from a collection to the next one. -/
theorem reported_of_run {s₀ : State}
    (hrun : run step s₀ (before ++ .collect (readingsOf data figures) data :: after) = some s) :
    ∃ address summary, Collectable host address summary ∧
      s.vars.readings = readingsOf data (host.reported summary.node) := by
  have houtcome := ((ends_iff host _).mp hends).symm
  obtain ⟨address, summary, hcollectable, rfl⟩ := figures_of_outcome houtcome
  exact ⟨address, summary, hcollectable, readings_of_run hafter hrun⟩

/-- And for a given answer of the kubelet. -/
theorem reported_of_decoded {s₀ : State} {address : String} {summary : Summary}
    (hlisted : host.node.addresses[0]? = some address)
    (hdecoded : (host.kubelet.asked address host.bearerToken).decoded = some summary)
    (hrun : run step s₀ (before ++ .collect (readingsOf data figures) data :: after) = some s) :
    s.vars.readings = readingsOf data (host.reported summary.node) := by
  obtain ⟨address', summary', hcollectable, hrecorded⟩ := reported_of_run hends hafter hrun
  have haddress : address' = address := Option.some.inj (hcollectable.listed.symm.trans hlisted)
  subst haddress
  have hsummary : summary' = summary :=
    Option.some.inj (hcollectable.decoded.symm.trans hdecoded)
  subst hsummary
  exact hrecorded

/-- From a collection to the next one both calls answer with its figures, which are those
of the node in what the kubelet sent, and with the cores and the memory of the two
files. -/
theorem node_reported (hstart : startup init nvml profile name = .ok v)
    (hrun : run step { vars := v } (before ++ .collect (readingsOf data figures) data :: after) =
      some s) :
    ∃ address summary, Collectable host address summary ∧
      let told := host.reported summary.node
      uses (getNode s.vars.collector).1 = (told.nodecpu, told.nodememory, told.nodestorage) ∧
      ∃ message collector, getInitData s.vars.collector = .ok (message, collector) ∧
        uses message.initNode = (told.nodecpu, told.nodememory, told.nodestorage) ∧
        totals message.initNode = (told.totalcpu, told.totalmemory, told.nodetotalstorage) := by
  obtain ⟨address, summary, hcollectable, hrecorded⟩ := reported_of_run hends hafter hrun
  obtain ⟨hnode, hused, htotals⟩ := uses_of_readings hrecorded
  exact ⟨address, summary, hcollectable, hnode, _, _,
    getInitData_of_answerable (answerable_of_run hstart hrun), hused, htotals⟩

/-- With a complete summary they are its counters. -/
theorem node_reported_exactly {s₀ : State} {address : String} {summary : Summary}
    (hlisted : host.node.addresses[0]? = some address)
    (hfetched : (host.kubelet.asked address host.bearerToken).fetched = some summary)
    {nanoCores usage capacity used : UInt64}
    (hmeasured : Measured summary.node nanoCores usage capacity used)
    (hrun : run step s₀ (before ++ .collect (readingsOf data figures) data :: after) = some s) :
    let message := (getNode s.vars.collector).1
    message.nodeCpu.toInt = (nanoCores.toNat ⌈/⌉ 10 ^ 6 : Nat) ∧
      message.nodeMemory.toInt = usage.toNat ∧ message.nodeStorage.toInt = used.toNat ∧
      s.vars.collector.node.grpcNodeTotalStorage.toInt = capacity.toNat := by
  have hrecorded := reported_of_decoded hends hafter hlisted (decoded_of_fetched hfetched) hrun
  obtain ⟨hnode, -, htotals⟩ := uses_of_readings hrecorded
  obtain ⟨hcpu, hmemory, hcapacity, hused⟩ := hmeasured.reported host
  simp only [uses, totals, Prod.mk.injEq] at hnode htotals
  dsimp only
  rw [hnode.1, hnode.2.1, hnode.2.2]
  refine ⟨hcpu, hmemory, hused, ?_⟩
  rw [← hcapacity]
  exact congrArg Int64.toInt htotals.2.2

/-- A kubelet that does not answer is not told from an idle node: nothing is used, and
there is no storage.  The zero that `GetNode` sends for it is also what it sends for
storage that has not changed. -/
theorem node_reported_as_idle (hstart : startup init nvml profile name = .ok v) {address : String}
    (hlisted : host.node.addresses[0]? = some address)
    (hrefused : (host.kubelet.asked address host.bearerToken).refused = true)
    (hrun : run step { vars := v } (before ++ .collect (readingsOf data figures) data :: after) =
      some s) :
    uses (getNode s.vars.collector).1 = (0, 0, 0) ∧
      (getNode s.vars.collector).1.nodeTotalstorage = 0 ∧
      ∃ message collector, getInitData s.vars.collector = .ok (message, collector) ∧
        uses message.initNode = (0, 0, 0) ∧
        totals message.initNode =
          (Int64.ofNat (cores host.cpuinfo) * 1000, lastMemTotal host.meminfo * 1000, 0) := by
  have hrecorded := reported_of_decoded hends hafter hlisted (decoded_of_refused hrefused) hrun
  obtain ⟨hnode, hused, htotals⟩ := uses_of_readings hrecorded
  have hnone : s.vars.collector.node.grpcNodeTotalStorage = 0 :=
    congrArg (fun total : Int64 × Int64 × Int64 => total.2.2) htotals
  exact ⟨hnode, nodeTotalstorage_of_none hnone, _, _,
    getInitData_of_answerable (answerable_of_run hstart hrun), hused, htotals⟩

end Runs

/-- A call and a cycle in the midst of the flush after a collection. -/
def flushedThen : List (Event Unit) := [.flush, .getNode, .launch 0 true oneGPU]

theorem isCollect_flushedThen : ∀ event ∈ flushedThen, event.isCollect = false := by
  intro event hevent
  simp only [flushedThen, List.mem_cons, List.not_mem_nil, or_false] at hevent
  rcases hevent with rfl | rfl | rfl
  all_goals rfl

theorem ends_quarterSummary : ∃ data figures,
    Ends (answering (.response 200 "200 OK" (.ok (.summary "" quarterSummary))))
      (.ok (data, figures)) :=
  ends_answering rfl ((decodeBatch_returns_iff _).mp ⟨_, _, rfl⟩)

theorem ends_unreachable : ∃ data figures,
    Ends (answering (.transport "connection refused")) (.ok (data, figures)) :=
  ends_answering rfl ((decodeBatch_returns_iff _).mp ⟨_, _, rfl⟩)

theorem node_reported_of_quarterSummary :
    ∃ v data figures s, startup true oneGPU (fun _ => {}) "node" = .ok v ∧
      run step { vars := v } ([] ++ .collect (readingsOf data figures) data :: flushedThen) =
        some s ∧
      ∃ address summary, Collectable
          (answering (.response 200 "200 OK" (.ok (.summary "" quarterSummary)))) address summary ∧
        (getNode s.vars.collector).1.nodeCpu = figure summary.node .cpuUsage := by
  obtain ⟨data, figures, hends⟩ := ends_quarterSummary
  refine ⟨_, data, figures, _, rfl, rfl, ?_⟩
  obtain ⟨address, summary, hcollectable, huses, -⟩ :=
    @node_reported Unit true oneGPU (fun _ => {}) "node" _ _ data figures [] flushedThen _ hends
      isCollect_flushedThen rfl rfl
  exact ⟨address, summary, hcollectable, congrArg Prod.fst huses⟩

theorem node_reported_exactly_of_quarterSummary :
    ∃ v data figures s, startup true oneGPU (fun _ => {}) "node" = .ok v ∧
      run step { vars := v } ([] ++ .collect (readingsOf data figures) data :: flushedThen) =
        some s ∧
      (getNode s.vars.collector).1.nodeCpu.toInt = 250 ∧
      (getNode s.vars.collector).1.nodeMemory.toInt = 4096 ∧
      (getNode s.vars.collector).1.nodeStorage.toInt = 400 := by
  obtain ⟨data, figures, hends⟩ := ends_quarterSummary
  have hrun : ∃ v s, startup true oneGPU (fun _ => {}) "node" = .ok v ∧
      run step { vars := v } ([] ++ .collect (readingsOf data figures) data :: flushedThen) =
        some s := ⟨_, _, rfl, rfl⟩
  obtain ⟨v, s, hstart, hrun⟩ := hrun
  obtain ⟨hcpu, hmemory, hstorage, -⟩ :=
    @node_reported_exactly Unit _ data figures [] flushedThen s hends isCollect_flushedThen
      { vars := v } "10.0.0.1" quarterSummary rfl rfl 250000000 4096 1000 400
      measured_quarterSummary hrun
  exact ⟨v, data, figures, s, hstart, hrun, hcpu, hmemory, hstorage⟩

/-- A collection, a call, and the flush up to the next collection. -/
def answeredFirst (data : Collection) (figures : NodeFigures) : List (Event Unit) :=
  [.collect (readingsOf data figures) data, .getNode, .flush, .flush, .flush, .flush]

/-- The kubelet has answered once, and does not answer again. -/
theorem node_reported_as_idle_when_unreachable :
    ∃ v data₀ figures₀ data figures s, startup true oneGPU (fun _ => {}) "node" = .ok v ∧
      Ends (answering (.response 200 "200 OK" (.ok (.summary "" quarterSummary))))
        (.ok (data₀, figures₀)) ∧
      run step { vars := v } (answeredFirst data₀ figures₀ ++
        .collect (readingsOf data figures) data :: flushedThen) = some s ∧
      uses (getNode s.vars.collector).1 = (0, 0, 0) ∧
      (getNode s.vars.collector).1.nodeTotalstorage = 0 := by
  obtain ⟨data₀, figures₀, hanswered⟩ := ends_quarterSummary
  obtain ⟨data, figures, hends⟩ := ends_unreachable
  refine ⟨_, data₀, figures₀, data, figures, _, rfl, hanswered, rfl, ?_⟩
  obtain ⟨huses, hstorage, -⟩ :=
    @node_reported_as_idle Unit true oneGPU (fun _ => {}) "node" _ _ data figures
      (answeredFirst data₀ figures₀) flushedThen _ hends isCollect_flushedThen rfl "10.0.0.1"
      rfl rfl rfl
  exact ⟨huses, hstorage⟩

end MetricCollector.Main
