import MetricCollector.CustomMetrics.Deploy

/-!
# The network counters of a pod name

The four maps outlive the calls of `AddToDeployCustomMetricServer`, and a pod is counted
once for each replica set whose name its own begins with.  They know a pod by its name
alone, so pods of one name in several namespaces share their entries.  What the maps hold
under a name in the end depends on the readings under that name, in the order in which
they were made: `addToDeployRun_holds`.  In particular the four checks at the start of a
count, all of which set the first map, do no harm.
-/

namespace GoLib

variable {K V ι : Type} [DecidableEq K]

/-- A loop that rewrites one entry of a map at a time does to each entry what the turns
for that entry do. -/
theorem foldl_update_apply (key : ι → K) (visit : V → ι → V) (xs : List ι) (entries : K → V)
    (k : K) :
    xs.foldl (fun entries x =>
        Function.update entries (key x) (visit (entries (key x)) x)) entries k =
      (xs.filter fun x => key x = k).foldl visit (entries k) := by
  induction xs generalizing entries with
  | nil => rfl
  | cons x xs ih =>
      rw [List.foldl_cons, ih]
      by_cases hkey : key x = k
      · rw [List.filter_cons_of_pos (by simpa using hkey), List.foldl_cons, ← hkey,
          Function.update_self]
      · rw [List.filter_cons_of_neg (by simpa using hkey), Function.update_of_ne (Ne.symm hkey)]

end GoLib

namespace MetricCollector.CustomMetrics

open GoLib Resource Storage

/-- What is on record under a pod name: the last readings and the last differences. -/
structure PodNetwork where
  rx : Int64 := 0
  tx : Int64 := 0
  rxDiff : Int64 := 0
  txDiff : Int64 := 0
deriving DecidableEq, Repr

/-- What is on record after one more count. -/
def PodNetwork.next (last : PodNetwork) (value : PodMetricsPoint) : PodNetwork where
  rx := parseInt value.metricsPoint.networkRxBytes.string
  tx := parseInt value.metricsPoint.networkTxBytes.string
  rxDiff :=
    networkDifference (parseInt value.metricsPoint.networkRxBytes.string) last.rx last.rxDiff
  txDiff :=
    networkDifference (parseInt value.metricsPoint.networkTxBytes.string) last.tx last.txDiff

/-- A count of a pod, which may be its first. -/
def visit (entry : Option PodNetwork) (value : PodMetricsPoint) : Option PodNetwork :=
  some ((entry.getD {}).next value)

/-- The four maps hold what is on record. -/
structure Holds (books : NetworkBooks) (entries : String → Option PodNetwork) : Prop where
  rx : ∀ name, books.prevNetworkrxusage name = (entries name).map PodNetwork.rx
  tx : ∀ name, books.prevNetworktxusage name = (entries name).map PodNetwork.tx
  rxDiff : ∀ name, books.diffNetworkrxusage name = (entries name).map PodNetwork.rxDiff
  txDiff : ∀ name, books.diffNetworktxusage name = (entries name).map PodNetwork.txDiff

/-- A count of one pod among others. -/
def visitAll (entries : String → Option PodNetwork) (value : PodMetricsPoint) :
    String → Option PodNetwork :=
  Function.update entries value.name (visit (entries value.name) value)

section Holds

variable {books : NetworkBooks} {entries : String → Option PodNetwork}

/-- For a pod that is known the checks do nothing. -/
theorem Holds.enter_of_some (h : Holds books entries) {name : String} {entry : PodNetwork}
    (hentry : entries name = some entry) : books.enter name = books := by
  have hrx := h.rx name
  have htx := h.tx name
  have hrxDiff := h.rxDiff name
  have htxDiff := h.txDiff name
  rw [hentry] at hrx htx hrxDiff htxDiff
  unfold NetworkBooks.enter
  simp [hrx, htx, hrxDiff, htxDiff]

/-- For a new one they set the first map to zero. -/
theorem Holds.enter_of_none (h : Holds books entries) {name : String}
    (hentry : entries name = none) : books.enter name = books.reset name := by
  have hrx := h.rx name
  have htx := h.tx name
  have hrxDiff := h.rxDiff name
  have htxDiff := h.txDiff name
  rw [hentry] at hrx htx hrxDiff htxDiff
  unfold NetworkBooks.enter NetworkBooks.reset
  simp [hrx, htx, hrxDiff, htxDiff]

/-- A record of a pod. -/
theorem Holds.record (h : Holds books entries) (name : String) (entry : PodNetwork) :
    Holds (books.record name entry.rx entry.tx entry.rxDiff entry.txDiff)
      (Function.update entries name (some entry)) := by
  have hupdate : ∀ {field : PodNetwork → Int64} {map : String → Option Int64},
      (∀ other, map other = (entries other).map field) → ∀ other,
      Function.update map name (some (field entry)) other =
        (Function.update entries name (some entry) other).map field := by
    intro field map hmap other
    by_cases hother : other = name
    · rw [hother, Function.update_self, Function.update_self, Option.map_some]
    · rw [Function.update_of_ne hother, Function.update_of_ne hother, hmap]
  exact ⟨hupdate h.rx, hupdate h.tx, hupdate h.rxDiff, hupdate h.txDiff⟩

/-- A record hides what the checks set. -/
theorem record_reset (name : String) (rx tx rxDiff txDiff : Int64) :
    (books.reset name).record name rx tx rxDiff txDiff =
      books.record name rx tx rxDiff txDiff := by
  unfold NetworkBooks.record NetworkBooks.reset
  rw [Function.update_idem]

/-- A pod that is counted is visited. -/
theorem Holds.podTurn (h : Holds books entries) (replicaset : ReplicaSet) (sums : Sums)
    (value : PodMetricsPoint) :
    Holds (podTurn replicaset (sums, books) value).2
      (if Counts replicaset value then visitAll entries value else entries) := by
  unfold CustomMetrics.podTurn
  by_cases hcounts : Counts replicaset value
  · rw [if_pos hcounts, if_pos hcounts]
    dsimp only
    unfold visitAll visit
    cases hentry : entries value.name with
    | none =>
        have hrxDiff := h.rxDiff value.name
        have htx := h.tx value.name
        have htxDiff := h.txDiff value.name
        rw [hentry] at hrxDiff htx htxDiff
        rw [h.enter_of_none hentry, record_reset]
        unfold NetworkBooks.reset
        dsimp only
        rw [Function.update_self, hrxDiff, htx, htxDiff]
        exact h.record value.name (PodNetwork.next {} value)
    | some entry =>
        rw [h.enter_of_some hentry, h.rx, h.rxDiff, h.tx, h.txDiff, hentry]
        exact h.record value.name (entry.next value)
  · rw [if_neg hcounts, if_neg hcounts]
    exact h

/-- All pods of a replica set are. -/
theorem Holds.foldl (h : Holds books entries) (replicaset : ReplicaSet) (sums : Sums)
    (podList : List PodMetricsPoint) :
    Holds (podList.foldl (CustomMetrics.podTurn replicaset) (sums, books)).2
      ((podList.filter (Counts replicaset)).foldl visitAll entries) := by
  induction podList generalizing sums books entries with
  | nil => exact h
  | cons value podList ih =>
      have hturn := h.podTurn replicaset sums value
      rw [List.foldl_cons]
      by_cases hcounts : Counts replicaset value
      · rw [if_pos hcounts] at hturn
        rw [List.filter_cons_of_pos (by simpa using hcounts), List.foldl_cons]
        exact ih hturn _
      · rw [if_neg hcounts] at hturn
        rw [List.filter_cons_of_neg (by simpa using hcounts)]
        exact ih hturn _

end Holds

/-! ## The calls -/

section Calls

variable {server : Server} {host token : String} {state state' : DeployState}
  {entries : String → Option PodNetwork}

/-- The pods that are counted for a replica set. -/
def countedFor (podList : List PodMetricsPoint) (replicaset : ReplicaSet) :
    List PodMetricsPoint :=
  podList.filter (Counts replicaset)

/-- The pods that are counted in a call, in the order of their counts. -/
def countedIn (call : Collection × Option (List ReplicaSet)) : List PodMetricsPoint :=
  (itemsOf call).flatMap (countedFor (podsOf call))

/-- A loop whose turns visit. -/
theorem holds_foldlM {α : Type} {turn : DeployState → α → Go PostFrame DeployState}
    {counted : α → List PodMetricsPoint}
    (hturn : ∀ x {state state' : DeployState} {entries}, turn state x = .ok state' →
      Holds state.books entries → Holds state'.books ((counted x).foldl visitAll entries))
    {xs : List α} (hrun : xs.foldlM turn state = .ok state') (h : Holds state.books entries) :
    Holds state'.books ((xs.flatMap counted).foldl visitAll entries) := by
  induction xs generalizing state entries with
  | nil =>
      cases hrun
      exact h
  | cons x xs ih =>
      rw [List.foldlM_cons] at hrun
      obtain ⟨state₁, hx, hrest⟩ := bind_eq_ok.mp hrun
      rw [List.flatMap_cons, List.foldl_append]
      exact ih hrest (hturn x hx h)

theorem holds_replicaSetTurn {podList : List PodMetricsPoint} (replicaset : ReplicaSet)
    (hrun : replicaSetTurn server host token podList state replicaset = .ok state')
    (h : Holds state.books entries) :
    Holds state'.books ((countedFor podList replicaset).foldl visitAll entries) := by
  have hbooks := h.foldl replicaset {} podList
  have hsame : state'.books = (podList.foldl (podTurn replicaset) ({}, state.books)).2 := by
    unfold replicaSetTurn at hrun
    cases hfold : podList.foldl (podTurn replicaset) ({}, state.books) with
    | mk sums books =>
        rw [hfold] at hrun
        dsimp only at hrun ⊢
        by_cases hcounted : 0 < sums.checkExist
        · rw [if_pos hcounted] at hrun
          obtain ⟨name, _, hrun⟩ := bind_eq_ok.mp hrun
          obtain ⟨sent, _, hrun⟩ := bind_eq_ok.mp hrun
          cases hrun
          rfl
        · rw [if_neg hcounted] at hrun
          cases hrun
          rfl
  rw [hsame]
  exact hbooks

theorem holds_addToDeploy (call : Collection × Option (List ReplicaSet))
    (hrun : addToDeployCustomMetricServer server host token state call = .ok state')
    (h : Holds state.books entries) :
    Holds state'.books ((countedIn call).foldl visitAll entries) := by
  obtain ⟨data, items⟩ := call
  cases items with
  | none =>
      cases hrun
      exact h
  | some items => exact holds_foldlM (fun x => holds_replicaSetTurn x) hrun h

/-- After any calls on any batches the four maps hold, under each pod name, what the
counts of pods with that name come to. -/
theorem addToDeployRun_holds {calls : List (Collection × Option (List ReplicaSet))}
    (hrun : addToDeployRun server host token calls = .ok state) :
    Holds state.books fun name =>
      ((calls.flatMap countedIn).filter fun value => value.name = name).foldl visit none := by
  have hstart : Holds ({} : DeployState).books fun _ => none :=
    ⟨fun _ => rfl, fun _ => rfl, fun _ => rfl, fun _ => rfl⟩
  have hend := holds_foldlM (fun call => holds_addToDeploy call) hrun hstart
  have hentry : ∀ name, (calls.flatMap countedIn).foldl visitAll (fun _ => none) name =
      ((calls.flatMap countedIn).filter fun value => value.name = name).foldl visit none :=
    fun name => foldl_update_apply PodMetricsPoint.name visit _ _ name
  rwa [funext hentry] at hend

end Calls

/-! ## The difference on record -/

/-- What was read of the bytes that a pod received, at one count. -/
def readRx (value : PodMetricsPoint) : Int64 :=
  parseInt value.metricsPoint.networkRxBytes.string

/-- The first two fields of the record, after one more reading. -/
def nextRx (last : Int64 × Int64) (usage : Int64) : Int64 × Int64 :=
  (usage, networkDifference usage last.1 last.2)

theorem foldl_visit_rx (values : List PodMetricsPoint) (entry : Option PodNetwork) :
    let last := (values.foldl visit entry).getD {}
    (last.rx, last.rxDiff) =
      (values.map readRx).foldl nextRx ((entry.getD {}).rx, (entry.getD {}).rxDiff) := by
  dsimp only
  induction values generalizing entry with
  | nil => rfl
  | cons value values ih =>
      rw [List.foldl_cons, ih, List.map_cons, List.foldl_cons]
      rfl

/-- A new reading is compared with the one before, and repeating it changes nothing. -/
theorem foldl_nextRx {x y : Int64} (hx : x ≠ 0) (hy : y ≠ 0) (hne : x ≠ y) (d : Int64)
    (k : Nat) : (List.replicate (k + 1) x).foldl nextRx (y, d) = (x, x - y) := by
  have hsub : x - y ≠ 0 := by
    intro h
    rw [Int64.sub_eq_iff_eq_add, Int64.zero_add] at h
    exact hne h
  have hfirst : nextRx (y, d) x = (x, x - y) := by
    unfold nextRx networkDifference
    rw [if_neg hy, if_neg (not_or.mpr ⟨hx, hsub⟩)]
  have hagain : nextRx (x, x - y) x = (x, x - y) := by
    unfold nextRx networkDifference
    rw [if_neg hx, if_pos (Or.inr (Int64.sub_self x))]
  induction k with
  | zero => exact hfirst
  | succ k ih => rw [List.replicate_succ', List.foldl_append, ih, List.foldl_cons, hagain]; rfl

/-- However often a pod name is counted, the difference on record is that between the
last reading under it and the last one before that was another, when neither of them is
zero. -/
theorem addToDeployRun_difference {server : Server} {host token : String} {state : DeployState}
    {calls : List (Collection × Option (List ReplicaSet))}
    (hrun : addToDeployRun server host token calls = .ok state) {name : String}
    {before : List Int64} {x y : Int64} {k : Nat}
    (hreadings : ((calls.flatMap countedIn).filter fun value => value.name = name).map readRx =
      before ++ y :: List.replicate (k + 1) x)
    (hx : x ≠ 0) (hy : y ≠ 0) (hne : x ≠ y) :
    state.books.prevNetworkrxusage name = some x ∧
      state.books.diffNetworkrxusage name = some (x - y) := by
  have hholds := addToDeployRun_holds hrun
  have hrecord := foldl_visit_rx
    ((calls.flatMap countedIn).filter fun value => value.name = name) none
  dsimp only at hrecord
  rw [hreadings, List.foldl_append, List.foldl_cons] at hrecord
  have hlast := hrecord.trans (foldl_nextRx hx hy hne _ k)
  rw [hholds.rx name, hholds.rxDiff name]
  cases hentry : ((calls.flatMap countedIn).filter fun value => value.name = name).foldl
      visit none with
  | none =>
      rw [hentry] at hlast
      exact absurd (congrArg Prod.fst hlast).symm hx
  | some entry =>
      rw [hentry] at hlast
      exact ⟨congrArg (some ∘ Prod.fst) hlast, congrArg (some ∘ Prod.snd) hlast⟩

/-- A batch with one pod, which has received so many bytes. -/
def receivedBatch (bytes : Int64) : MetricsBatch where
  pods := [{ name := "web-1-a", metricsPoint := { networkRxBytes := newScaledQuantity bytes 0 } }]

/-- A call on it, with two replica sets to count the pod for. -/
def receivedCall (bytes : Int64) : Collection × Option (List ReplicaSet) :=
  (⟨[receivedBatch bytes]⟩, some [⟨"web-1", "default"⟩, ⟨"web-1-a", "default"⟩])

theorem exists_receivedRun : ∃ state,
    addToDeployRun willing "" "" [receivedCall 1500, receivedCall 1700] = .ok state := by
  have hok : (addToDeployRun willing "" "" [receivedCall 1500, receivedCall 1700]).toBool := by
    decide
  cases hrun : addToDeployRun willing "" "" [receivedCall 1500, receivedCall 1700] with
  | error fault =>
      rw [hrun] at hok
      cases hok
  | ok state => exact ⟨state, rfl⟩

theorem addToDeployRun_holds_after_two_calls :
    ∃ state, addToDeployRun willing "" "" [receivedCall 1500, receivedCall 1700] = .ok state ∧
      (state.books.prevNetworkrxusage "web-1-a", state.books.diffNetworkrxusage "web-1-a") =
        (some 1700, some 200) := by
  obtain ⟨state, hrun⟩ := exists_receivedRun
  have hholds := addToDeployRun_holds hrun
  refine ⟨state, hrun, ?_⟩
  rw [hholds.rx, hholds.rxDiff]
  decide

theorem addToDeployRun_difference_after_two_calls :
    ∃ state, addToDeployRun willing "" "" [receivedCall 1500, receivedCall 1700] = .ok state ∧
      state.books.diffNetworkrxusage "web-1-a" = some (1700 - 1500) := by
  obtain ⟨state, hrun⟩ := exists_receivedRun
  have hreadings : (([receivedCall 1500, receivedCall 1700].flatMap countedIn).filter
      fun value => value.name = "web-1-a").map readRx =
        [1500] ++ 1500 :: List.replicate (1 + 1) 1700 := by
    decide
  have hdifference := addToDeployRun_difference hrun hreadings (by decide) (by decide) (by decide)
  exact ⟨state, hrun, hdifference.2⟩

end MetricCollector.CustomMetrics
