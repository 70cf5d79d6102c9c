import MetricCollector.CustomMetrics
import MetricCollector.Decode.Totality
import MetricCollector.Scrap.Failures
import MetricCollector.Scrap.Termination

/-!
# One collection

`MemberMetricCollector` scrapes the one node that it runs on and puts the figures of
the node beside what it scraped.  It prints the errors of the scrape and goes on.

* `Ends` lists the ends that a call can have, in any order of the goroutines of
  `Scrap`, and `Host.outcome` does one thing after another.  `ends_iff` says that they
  agree.
* `outcome_eq_ok` says when there is an end other than a fault, and what it is, and
  `collection_returns_iff` puts the two together.
* `figure` is what is read of a counter of the node in the end.
-/

namespace MetricCollector.Member

open GoLib Schedule Resource Storage Stats Kubelet Decode Scrap CustomMetrics

/-- What a call is given: the kubelet and its node, and the two files. -/
structure Host where
  kubelet : KubeletClient
  bearerToken : String
  node : Node
  cpuinfo : String
  meminfo : String

/-- `MemberMetricCollector` once `Scrap` has returned. -/
def Host.conclude (host : Host) (metricsbatchs : List MetricsBatch) :
    Exec (Collection × NodeFigures) := do
  let data : Collection := { metricsbatchs := metricsbatchs }
  let figures ← addToPodCustomMetricServer host.cpuinfo host.meminfo data
  return (data, figures)

/-- `MemberMetricCollector`: a fault in the goroutine of the node ends the process, and
otherwise `Scrap` returns after some order of its steps. -/
inductive Ends (host : Host) : Exec (Collection × NodeFigures) → Prop where
  | faulted {fault : Fault Frame}
      (hresult : collectResult host.kubelet host.bearerToken host.node = .error fault) :
      Ends host (.error fault)
  | scraped {result : Result} {events : List Event} {s : State}
      (hresult : collectResult host.kubelet host.bearerToken host.node = .ok result)
      (hrun : run step (start [result]) events = some s) (hreturned : s.main = .returned) :
      Ends host (host.conclude s.metricsbatchs)

/-! ## The order of the goroutines -/

/-- The same without goroutines. -/
def Host.outcome (host : Host) : Exec (Collection × NodeFigures) := do
  let result ← collectResult host.kubelet host.bearerToken host.node
  host.conclude result.metrics.toList

/-- On one node there is one order in which the batches can come. -/
theorem metricsbatchs_of_returned {result : Result} {events : List Event} {s : State}
    (hrun : run step (start [result]) events = some s) (hreturned : s.main = .returned) :
    s.metricsbatchs = result.metrics.toList := by
  obtain ⟨batches, errors, h⟩ := inv_of_run hrun
  have hperm := (perm_of_returned h hreturned).1
  rw [List.filterMap_cons, List.filterMap_nil] at hperm
  cases hmetrics : result.metrics with
  | none =>
      rw [hmetrics] at hperm
      exact hperm.eq_nil
  | some batch =>
      rw [hmetrics] at hperm
      exact hperm.eq_singleton

/-- The order of the goroutines makes no difference, and some order comes to an end. -/
theorem ends_iff (host : Host) (out : Exec (Collection × NodeFigures)) :
    Ends host out ↔ out = host.outcome := by
  unfold Host.outcome
  constructor
  · intro h
    cases h with
    | faulted hresult =>
        rw [hresult]
        rfl
    | scraped hresult hrun hreturned =>
        rw [hresult, metricsbatchs_of_returned hrun hreturned]
        rfl
  · rintro rfl
    cases hresult : collectResult host.kubelet host.bearerToken host.node with
    | error fault => exact .faulted hresult
    | ok result =>
        have hreached : Reached [result] (start [result]) := ⟨[], [], inv_start [result]⟩
        obtain ⟨events, s, hrun, hreturned⟩ := hreached.exists_run
        rw [ok_bind, ← metricsbatchs_of_returned hrun hreturned]
        exact .scraped hresult hrun hreturned

/-! ## What is needed -/

/-- What has to be there for a collection: an address of the node, a request to its
kubelet and an answer that can be decoded, and a number on each line of `/proc/meminfo`
that should have one. -/
structure Collectable (host : Host) (address : String) (summary : Summary) : Prop where
  listed : host.node.addresses[0]? = some address
  requested : host.kubelet.newRequest (host.kubelet.summaryURL address) = none
  decoded : (host.kubelet.asked address host.bearerToken).decoded = some summary
  counted : Counted summary
  readable : Readable host.meminfo

variable {host : Host} {data : Collection} {figures : NodeFigures}

theorem conclude_eq_ok {metricsbatchs : List MetricsBatch} :
    host.conclude metricsbatchs = .ok (data, figures) ↔
      Readable host.meminfo ∧ ∃ batch rest, metricsbatchs = batch :: rest ∧
        data = { metricsbatchs := metricsbatchs } ∧
        figures = figuresOf host.cpuinfo host.meminfo batch.node.metricsPoint := by
  unfold Host.conclude
  dsimp only
  rw [bind_eq_ok]
  constructor
  · rintro ⟨figures, hfigures, h⟩
    cases h
    obtain ⟨hreadable, batch, rest, hbatches, rfl⟩ :=
      (addToPodCustomMetricServer_iff _ _ _ _).mp hfigures
    exact ⟨hreadable, batch, rest, hbatches, rfl, rfl⟩
  · rintro ⟨hreadable, batch, rest, hbatches, rfl, rfl⟩
    exact ⟨_, (addToPodCustomMetricServer_iff _ _ _ _).mpr
      ⟨hreadable, batch, rest, hbatches, rfl⟩, rfl⟩

/-- A node gets a batch when the kubelet's answer can be decoded. -/
theorem collectNode_some_iff (kc : KubeletClient) (bearerToken : String) (node : Node)
    (batch : MetricsBatch) :
    (∃ err, collectNode kc bearerToken node = .ok (some batch, err)) ↔
      ∃ address summary errs, node.addresses[0]? = some address ∧
        kc.newRequest (kc.summaryURL address) = none ∧
        (kc.asked address bearerToken).decoded = some summary ∧
        decodeBatch { summary with ip := address } = .ok (batch, errs) := by
  unfold collectNode
  constructor
  · rintro ⟨err, h⟩
    rcases bind_eq_ok.mp h with ⟨address, haddress, h⟩
    rcases bind_eq_ok.mp h with ⟨⟨summary, fetchErr⟩, hsummary, h⟩
    rw [index_eq_ok] at haddress
    cases hurl : kc.newRequest (kc.summaryURL address) with
    | some urlErr =>
        -- no request, no summary, and so no batch
        unfold KubeletClient.getSummary at hsummary
        rw [hurl] at hsummary
        cases hsummary
        cases h
    | none =>
        cases hdecoded : (kc.asked address bearerToken).decoded with
        | none =>
            rw [getSummary_of_not_decoded hurl hdecoded] at hsummary
            cases hsummary
        | some decoded =>
            rw [getSummary_of_decoded hurl hdecoded] at hsummary
            cases hsummary
            rcases bind_eq_ok.mp h with ⟨summary, hderef, h⟩
            cases hderef
            rcases bind_eq_ok.mp h with ⟨⟨batch', errs⟩, hbatch, h⟩
            cases h
            exact ⟨address, decoded, errs, haddress, hurl, hdecoded, hbatch⟩
  · rintro ⟨address, summary, errs, haddress, hurl, hdecoded, hbatch⟩
    refine ⟨errs.map CollectError.decode, ?_⟩
    rw [index_of_getElem? haddress, ok_bind, getSummary_of_decoded hurl hdecoded, ok_bind]
    show decodeBatch { summary with ip := address } >>= _ = _
    rw [hbatch]
    rfl

/-- What a collection returns. -/
theorem outcome_eq_ok :
    host.outcome = .ok (data, figures) ↔
      ∃ address summary batch errs, Collectable host address summary ∧
        decodeBatch { summary with ip := address } = .ok (batch, errs) ∧
        data = { metricsbatchs := [batch] } ∧
        figures = figuresOf host.cpuinfo host.meminfo batch.node.metricsPoint := by
  unfold Host.outcome collectResult
  constructor
  · intro h
    rcases bind_eq_ok.mp h with ⟨result, hresult, h⟩
    rcases bind_eq_ok.mp hresult with ⟨⟨metrics, err⟩, hcollect, hresult⟩
    cases hresult
    obtain ⟨hreadable, batch, rest, hbatches, rfl, rfl⟩ := conclude_eq_ok.mp h
    cases metrics with
    | none => cases hbatches
    | some batch' =>
        cases hbatches
        obtain ⟨address, summary, errs, haddress, hurl, hdecoded, hbatch⟩ :=
          (collectNode_some_iff _ _ _ _).mp ⟨err, hcollect⟩
        have hcounted := (decodeBatch_returns_iff _).mp ⟨_, _, hbatch⟩
        exact ⟨address, summary, batch, errs, ⟨haddress, hurl, hdecoded,
          ⟨hcounted.node, hcounted.pods⟩, hreadable⟩, hbatch, rfl, rfl⟩
  · rintro ⟨address, summary, batch, errs, hcollectable, hbatch, rfl, rfl⟩
    obtain ⟨err, hcollect⟩ := (collectNode_some_iff _ _ _ _).mpr ⟨address, summary, errs,
      hcollectable.listed, hcollectable.requested, hcollectable.decoded, hbatch⟩
    rw [hcollect]
    exact conclude_eq_ok.mpr ⟨hcollectable.readable, batch, [], rfl, rfl, rfl⟩

/-- With everything there, a collection returns. -/
theorem outcome_of_collectable {address : String} {summary : Summary}
    (h : Collectable host address summary) :
    ∃ data figures, host.outcome = .ok (data, figures) := by
  obtain ⟨batch, errs, hbatch⟩ := (decodeBatch_returns_iff { summary with ip := address }).mpr
    ⟨h.counted.node, h.counted.pods⟩
  exact ⟨_, _, outcome_eq_ok.mpr ⟨address, summary, batch, errs, h, hbatch, rfl, rfl⟩⟩

/-- A counter as it is read back. -/
def readBack : Metric → UInt64 → Int64
  | .cpuUsage => readCPU
  | _ => readBytes

/-- What is read of a counter of the node: nothing if no section has a time, or if the
decoder finds no counter. -/
def figure (nodeStats : NodeStats) (m : Metric) : Int64 :=
  match getScrapeTimeNode nodeStats.cpu nodeStats.memory nodeStats.network nodeStats.fs with
  | .error _ => 0
  | .ok _ => (((nodeSections nodeStats).filled m).map (readBack m)).getD 0

/-- How a quantity is read. -/
def consume (m : Metric) (q : Quantity) : Int64 :=
  match m with
  | .cpuUsage => q.milliValue
  | _ => q.getValue

/-- A quantity that nothing was written to is read as zero. -/
theorem consume_zero (m : Metric) : consume m {} = 0 := by
  cases m <;> decide

/-- What the decoder fills is read back. -/
theorem consume_fill (s : Sections) (m : Metric) :
    consume m (s.fill m) = ((s.filled m).map (readBack m)).getD 0 := by
  unfold Sections.fill
  cases s.filled m with
  | none => exact consume_zero m
  | some val => cases m <;> rfl

/-- Each quantity of the node is read as the figure for it. -/
theorem consume_of_decodeNodeStats {nodeStats : NodeStats} {node : NodeMetricsPoint}
    {errs : List DecodeError} (h : decodeNodeStats nodeStats {} = .ok (node, errs)) (m : Metric) :
    consume m (Metric.read node.metricsPoint m) = figure nodeStats m := by
  have hsearch : getScrapeTimeNode nodeStats.cpu nodeStats.memory nodeStats.network nodeStats.fs =
    scrapeTime ((nodeTimes nodeStats).foldl earlier none) := rfl
  unfold figure
  rw [hsearch]
  rw [decodeNodeStats_eq] at h
  rcases decode_cases h with hdiscarded | ⟨point, rfl, hdecoded⟩
  · rcases scrapeTime_cases (nodeTimes nodeStats) with ⟨-, htime⟩ | ⟨htimed, -⟩
    · rw [htime, hdiscarded.kept]
      cases m <;> exact consume_zero _
    · exact absurd hdiscarded.untimed htimed
  · rcases scrapeTime_cases (nodeTimes nodeStats) with ⟨huntimed, -⟩ | ⟨-, t, -, htime⟩
    · exact absurd huntimed hdecoded.timed
    · rw [htime]
      show consume m (Metric.read point m) = _
      rw [hdecoded.quantities m]
      exact consume_fill _ m

/-- What is reported about the host. -/
def Host.reported (host : Host) (nodeStats : NodeStats) : NodeFigures where
  totalcpu := Int64.ofNat (cores host.cpuinfo) * 1000
  nodecpu := figure nodeStats .cpuUsage
  totalmemory := lastMemTotal host.meminfo * 1000
  nodememory := figure nodeStats .memoryUsage
  nodetotalstorage := figure nodeStats .fsCapacity
  nodestorage := figure nodeStats .fsUsed

/-- The figures of a collection are those of the node in the summary. -/
theorem figures_of_outcome (h : host.outcome = .ok (data, figures)) :
    ∃ address summary, Collectable host address summary ∧
      figures = host.reported summary.node := by
  obtain ⟨address, summary, batch, errs, hcollectable, hbatch, rfl, rfl⟩ := outcome_eq_ok.mp h
  obtain ⟨node, nodeErrs, decoded, hnode, -, rfl, -⟩ := decodeBatch_eq_ok hbatch
  have hread := consume_of_decodeNodeStats hnode
  refine ⟨address, summary, hcollectable, ?_⟩
  unfold Host.reported
  rw [← hread .cpuUsage, ← hread .memoryUsage, ← hread .fsCapacity, ← hread .fsUsed]
  rfl

/-- The node has a time and these counters, and each of them fits an `int64`. -/
structure Measured (nodeStats : NodeStats) (nanoCores usage capacity used : UInt64) : Prop where
  timed : ¬Untimed (nodeTimes nodeStats)
  usageNanoCores : nodeStats.cpu.bind CPUStats.usageNanoCores = some nanoCores
  usageBytes : nodeStats.memory.bind MemoryStats.usageBytes = some usage
  workingSetBytes : (nodeStats.memory.bind MemoryStats.workingSetBytes).isSome
  capacityBytes : nodeStats.fs.bind FsStats.capacityBytes = some capacity
  usedBytes : nodeStats.fs.bind FsStats.usedBytes = some used
  fits : ∀ counter ∈ [nanoCores, usage, capacity, used], counter.toNat < 2 ^ 63

/-- A counter is read as it is when the node has a time. -/
theorem figure_of_timed {nodeStats : NodeStats} (htimed : ¬Untimed (nodeTimes nodeStats))
    {m : Metric} {val : UInt64} (hval : (nodeSections nodeStats).filled m = some val) :
    figure nodeStats m = readBack m val := by
  have hsearch : getScrapeTimeNode nodeStats.cpu nodeStats.memory nodeStats.network nodeStats.fs =
    scrapeTime ((nodeTimes nodeStats).foldl earlier none) := rfl
  unfold figure
  rw [hsearch]
  rcases scrapeTime_cases (nodeTimes nodeStats) with ⟨huntimed, -⟩ | ⟨-, t, -, htime⟩
  · exact absurd huntimed htimed
  · rw [htime, hval]
    rfl

/-- CPU in thousandths of a core, rounded up, and the rest in bytes. -/
theorem Measured.reported {nodeStats : NodeStats} {nanoCores usage capacity used : UInt64}
    (h : Measured nodeStats nanoCores usage capacity used) (host : Host) :
    (host.reported nodeStats).nodecpu.toInt = (nanoCores.toNat ⌈/⌉ 10 ^ 6 : Nat) ∧
      (host.reported nodeStats).nodememory.toInt = usage.toNat ∧
      (host.reported nodeStats).nodetotalstorage.toInt = capacity.toNat ∧
      (host.reported nodeStats).nodestorage.toInt = used.toNat := by
  have hmemory : (nodeSections nodeStats).filled .memoryUsage = some usage := by
    show (nodeStats.memory.bind fun m => m.workingSetBytes.bind fun _ => m.usageBytes) = _
    obtain ⟨stats, hstats, husage⟩ := Option.bind_eq_some_iff.mp h.usageBytes
    obtain ⟨workingSet, hset⟩ := Option.isSome_iff_exists.mp h.workingSetBytes
    rw [hstats, Option.bind_some] at hset
    rw [hstats, Option.bind_some, hset, Option.bind_some, husage]
  have hused : (nodeSections nodeStats).filled .fsUsed = some used := by
    show (nodeStats.fs.map fun f => f.usedBytes.getD 0) = _
    obtain ⟨stats, hstats, hvalue⟩ := Option.bind_eq_some_iff.mp h.usedBytes
    rw [hstats, Option.map_some, hvalue]
    rfl
  have hfits := h.fits
  simp only [List.forall_mem_cons] at hfits
  obtain ⟨hcpu, hmem, hcapacity, husedFits, -⟩ := hfits
  unfold Host.reported
  dsimp only
  rw [figure_of_timed h.timed (show (nodeSections nodeStats).filled .cpuUsage = _ from h.usageNanoCores),
    figure_of_timed h.timed hmemory,
    figure_of_timed h.timed (show (nodeSections nodeStats).filled .fsCapacity = _ from h.capacityBytes),
    figure_of_timed h.timed hused]
  exact ⟨readCPU_of_lt hcpu, readBytes_of_lt hmem, readBytes_of_lt hcapacity,
    readBytes_of_lt husedFits⟩

/-! ## A host -/

/-- A node that uses a quarter of a core. -/
def quarterSummary : Summary where
  node := {
    nodeName := "node"
    cpu := some { time := 5, usageNanoCores := some 250000000 }
    memory := some { time := 5, usageBytes := some 4096, workingSetBytes := some 4096 }
    fs := some {
      time := 5, availableBytes := some 600, capacityBytes := some 1000, usedBytes := some 400 } }

/-- The host of a kubelet that gives this answer to every request. -/
def answering (exchange : Exchange) : Host where
  kubelet := { newRequest := fun _ => none, exchange := fun _ => exchange }
  bearerToken := "token"
  node := ⟨"node", ["10.0.0.1"]⟩
  cpuinfo := "processor : 0\nprocessor : 1\n"
  meminfo := smallMeminfo

theorem measured_quarterSummary : Measured quarterSummary.node 250000000 4096 1000 400 where
  timed h := absurd (h 5 (by decide)) (by decide)
  usageNanoCores := rfl
  usageBytes := rfl
  workingSetBytes := rfl
  capacityBytes := rfl
  usedBytes := rfl
  fits := by
    simp only [List.forall_mem_cons]
    exact ⟨by decide, by decide, by decide, by decide, List.forall_mem_nil _⟩

/-- It can be collected from whatever is decoded, if that is not lacking a counter. -/
theorem ends_answering {exchange : Exchange} {summary : Summary}
    (hdecoded : exchange.decoded = some summary) (hcounted : Counted summary) :
    ∃ data figures, Ends (answering exchange) (.ok (data, figures)) := by
  have hreadable : Readable smallMeminfo := by
    unfold Readable
    decide
  obtain ⟨data, figures, h⟩ := outcome_of_collectable
    (⟨rfl, rfl, hdecoded, hcounted, hreadable⟩ : Collectable (answering exchange) "10.0.0.1" summary)
  exact ⟨data, figures, (ends_iff _ _).mpr h.symm⟩

end MetricCollector.Member
