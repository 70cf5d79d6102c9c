import MetricCollector.Decode.Totality
import MetricCollector.Resource.Canonical

/-!
# The figures of the replica sets

`AddToDeployCustomMetricServer` takes the pods of all batches, adds up the figures of
those whose names begin with the name of a replica set, and posts their averages, five
for each replica set.  The figures are read from the texts of the quantities, without
their last one or two characters.  The network counters of a pod are compared with those
of the call before, which are in four maps that outlive the calls.

What lies outside is a `Server`: the environment, the check of a URL, and the network.

* `foldl_podTurn` adds up the pods of a replica set when no network counter was ever
  read.
* `addToDeployRun_eq_ok` says which posts any number of calls on decoded batches make,
  and when they return.
-/

namespace MetricCollector.CustomMetrics

open GoLib Decode Resource Storage

/-- The functions that a post goes through. -/
inductive PostFrame where
  | addToDeployCustomMetricServer
  | postData
deriving DecidableEq, Repr

/-- The metadata of a replica set. -/
structure ReplicaSet where
  name : String
  setNamespace : String
deriving DecidableEq, Repr

/-- A request of `PostData`. -/
structure PostRequest where
  url : String
  body : String
  contentType : String
  authorization : String
deriving DecidableEq, Repr

/-- `os.ExpandEnv`, whether `http.NewRequest` takes a URL, and whether there is a
response to a request, which may depend on how many were sent before. -/
structure Server where
  expandEnv : String → String
  newRequest : String → Bool
  responds : Nat → PostRequest → Bool

/-- The four maps of the package. -/
structure NetworkBooks where
  prevNetworkrxusage : String → Option Int64 := fun _ => none
  prevNetworktxusage : String → Option Int64 := fun _ => none
  diffNetworkrxusage : String → Option Int64 := fun _ => none
  diffNetworktxusage : String → Option Int64 := fun _ => none

/-- The sums over the pods of a replica set. -/
structure Sums where
  checkExist : Nat := 0
  cpuusage : Int64 := 0
  memoryusage : Int64 := 0
  networkrxusage : Int64 := 0
  networktxusage : Int64 := 0
  fsusage : Int64 := 0
deriving DecidableEq, Repr

/-- `Atoi` of the text of a quantity without its last `n` characters, for texts that have
more than one. -/
def trimmed (n : Nat) (q : Quantity) : Int64 :=
  if 1 < q.string.length then
    parseInt (String.ofList (q.string.toList.take (q.string.length - n)))
  else 0

/-- The use of a network since the call before. -/
def networkDifference (usage prev last : Int64) : Int64 :=
  if prev = 0 then 0
  else if usage = 0 ∨ usage - prev = 0 then last
  else usage - prev

/-- `prev_networkrxusage[name] = 0`. -/
def NetworkBooks.reset (books : NetworkBooks) (name : String) : NetworkBooks :=
  { books with prevNetworkrxusage := Function.update books.prevNetworkrxusage name (some 0) }

/-- The four checks that a pod is known.  All of them set the first map. -/
def NetworkBooks.enter (books : NetworkBooks) (name : String) : NetworkBooks :=
  let books := if (books.prevNetworkrxusage name).isNone then books.reset name else books
  let books := if (books.prevNetworktxusage name).isNone then books.reset name else books
  let books := if (books.diffNetworkrxusage name).isNone then books.reset name else books
  if (books.diffNetworktxusage name).isNone then books.reset name else books

/-- The pod's entries of the four maps after it has been counted. -/
def NetworkBooks.record (books : NetworkBooks) (name : String) (rx tx rxDiff txDiff : Int64) :
    NetworkBooks where
  prevNetworkrxusage := Function.update books.prevNetworkrxusage name (some rx)
  prevNetworktxusage := Function.update books.prevNetworktxusage name (some tx)
  diffNetworkrxusage := Function.update books.diffNetworkrxusage name (some rxDiff)
  diffNetworktxusage := Function.update books.diffNetworktxusage name (some txDiff)

/-- Whether a pod is counted for a replica set. -/
def Counts (replicaset : ReplicaSet) (value : PodMetricsPoint) : Prop :=
  value.name ≠ "" ∧ replicaset.name.toList <+: value.name.toList

instance (replicaset : ReplicaSet) (value : PodMetricsPoint) :
    Decidable (Counts replicaset value) :=
  inferInstanceAs (Decidable (_ ∧ _))

/-- The body of the loop over the pods. -/
def podTurn (replicaset : ReplicaSet) (acc : Sums × NetworkBooks) (value : PodMetricsPoint) :
    Sums × NetworkBooks :=
  if Counts replicaset value then
    let (sums, books) := acc
    let point := value.metricsPoint
    let books := books.enter value.name
    let rx := parseInt point.networkRxBytes.string
    let rxDiff := networkDifference rx ((books.prevNetworkrxusage value.name).getD 0)
      ((books.diffNetworkrxusage value.name).getD 0)
    let tx := parseInt point.networkTxBytes.string
    let txDiff := networkDifference tx ((books.prevNetworktxusage value.name).getD 0)
      ((books.diffNetworktxusage value.name).getD 0)
    ({ checkExist := sums.checkExist + 1
       cpuusage := sums.cpuusage + trimmed 1 point.cpuUsageNanoCores
       memoryusage := sums.memoryusage + trimmed 2 point.memoryUsageBytes
       networkrxusage := sums.networkrxusage + rxDiff
       networktxusage := sums.networktxusage + txDiff
       fsusage := sums.fsusage + trimmed 2 point.fsUsedBytes },
     books.record value.name rx tx rxDiff txDiff)
  else acc

/-- What is posted for a replica set, in the order of the posts. -/
def Sums.metrics (sums : Sums) : List (String × String) :=
  let average (sum : Int64) : String := formatInt (sum / Int64.ofNat sums.checkExist)
  [("CpuUsage", average sums.cpuusage ++ "n"), ("MemoryUsage", average sums.memoryusage ++ "Ki"),
    ("NetworkRxUsage", average sums.networkrxusage),
    ("NetworkTxUsage", average sums.networktxusage), ("FsUsage", average sums.fsusage ++ "Ki")]

/-- The part of a name in front of its last hyphen. -/
def beforeHyphen (name : String) : String :=
  String.ofList ((name.toList.reverse.dropWhile (· ≠ '-')).drop 1).reverse

/-- `name[:strings.LastIndexAny(name, "-")]`. -/
def deploymentName (name : String) : Go PostFrame String :=
  if '-' ∈ name.toList then .ok (beforeHyphen name)
  else .error ⟨.indexOutOfRange, .addToDeployCustomMetricServer⟩

variable (server : Server) (host token : String)

/-- The request that `PostData` builds. -/
def postRequest (resourceNamespace resourceName : String) (metric : String × String) :
    PostRequest where
  url := server.expandEnv (host ++
    "/api/v1/namespaces/custom-metrics/services/custom-metrics-apiserver:http/proxy/" ++
    "write-metrics" ++ "/namespaces/" ++ resourceNamespace ++ "/" ++ "pods" ++ "/" ++
    resourceName ++ "/" ++ metric.1)
  body := metric.2
  contentType := "application/json"
  authorization := server.expandEnv ("Bearer " ++ token)

/-- `PostData`.  Without a request its header is `nil`, and without a response its body. -/
def postData (resourceNamespace resourceName : String) (sent : List PostRequest)
    (metric : String × String) : Go PostFrame (List PostRequest) :=
  let req := postRequest server host token resourceNamespace resourceName metric
  if server.newRequest req.url then
    if server.responds sent.length req then .ok (sent ++ [req])
    else .error ⟨.nilDereference, .postData⟩
  else .error ⟨.nilDereference, .postData⟩

/-- The four maps and the requests that were sent. -/
structure DeployState where
  books : NetworkBooks := {}
  sent : List PostRequest := []

/-- The body of the loop over the replica sets. -/
def replicaSetTurn (podList : List PodMetricsPoint) (state : DeployState)
    (replicaset : ReplicaSet) : Go PostFrame DeployState :=
  let (sums, books) := podList.foldl (podTurn replicaset) ({}, state.books)
  if 0 < sums.checkExist then do
    let name ← deploymentName replicaset.name
    let sent ← sums.metrics.foldlM (postData server host token replicaset.setNamespace name)
      state.sent
    return ⟨books, sent⟩
  else return ⟨books, state.sent⟩

/-- `AddToDeployCustomMetricServer`, on what the cluster lists, if it can be listed. -/
def addToDeployCustomMetricServer (state : DeployState)
    (call : Collection × Option (List ReplicaSet)) : Go PostFrame DeployState :=
  let podList := call.1.metricsbatchs.flatMap MetricsBatch.pods
  match call.2 with
  | none => return state
  | some items => items.foldlM (replicaSetTurn server host token podList) state

/-- One call after another. -/
def addToDeployRun (calls : List (Collection × Option (List ReplicaSet))) :
    Go PostFrame DeployState :=
  calls.foldlM (addToDeployCustomMetricServer server host token) {}

/-! ## Pods without a network counter -/

/-- No network counter was written to the pod. -/
def Unmetered (value : PodMetricsPoint) : Prop :=
  value.metricsPoint.networkRxBytes = {} ∧ value.metricsPoint.networkTxBytes = {}

/-- No network counter was ever read. -/
def NetworkBooks.Quiet (books : NetworkBooks) : Prop :=
  ∀ name, (books.prevNetworkrxusage name).getD 0 = 0 ∧ (books.prevNetworktxusage name).getD 0 = 0

/-- A decoded pod has none, since the decoder does not call `decodeNetwork`. -/
theorem unmetered_of_decodeBatch {summary : Stats.Summary} {batch : MetricsBatch}
    {err : Option (List DecodeError)} (h : decodeBatch summary = .ok (batch, err)) :
    ∀ value ∈ batch.pods, Unmetered value := by
  obtain ⟨node, nodeErrs, decoded, _, hpods, rfl, _⟩ := decodeBatch_eq_ok h
  intro value hvalue
  obtain ⟨⟨out, errs⟩, hmem, rfl⟩ := List.mem_map.mp hvalue
  obtain ⟨pod, _, hout⟩ := exists_of_mem_mapM hpods (List.mem_of_mem_filter hmem)
  rw [decodePodStats_eq] at hout
  cases decode_cases hout with
  | inl hdiscarded =>
      rw [hdiscarded.kept]
      exact ⟨rfl, rfl⟩
  | inr hdecoded =>
      obtain ⟨point, rfl, hdecoded⟩ := hdecoded
      exact ⟨hdecoded.quantities .networkRx, hdecoded.quantities .networkTx⟩

section Quiet

variable {books : NetworkBooks}

theorem NetworkBooks.Quiet.reset (h : books.Quiet) (name : String) : (books.reset name).Quiet := by
  intro other
  by_cases hother : other = name
  · subst hother
    exact ⟨by simp [NetworkBooks.reset], (h other).2⟩
  · unfold NetworkBooks.reset
    dsimp only
    rw [Function.update_of_ne hother]
    exact h other

theorem NetworkBooks.Quiet.enter (h : books.Quiet) (name : String) : (books.enter name).Quiet := by
  have hcheck : ∀ {books : NetworkBooks}, books.Quiet → ∀ missing : Bool,
      (if missing then books.reset name else books).Quiet := by
    intro books hbooks missing
    cases missing with
    | false => exact hbooks
    | true => exact hbooks.reset name
  exact hcheck (hcheck (hcheck (hcheck h _) _) _) _

theorem NetworkBooks.Quiet.record (h : books.Quiet) (name : String) (rxDiff txDiff : Int64) :
    (books.record name 0 0 rxDiff txDiff).Quiet := by
  intro other
  unfold NetworkBooks.record
  by_cases hother : other = name
  · subst hother
    simp
  · dsimp only
    rw [Function.update_of_ne hother, Function.update_of_ne hother]
    exact h other

/-- A figure of all pods. -/
def total (figure : MetricsPoint → Int64) (values : List PodMetricsPoint) : Int64 :=
  (values.map fun value => figure value.metricsPoint).foldl (· + ·) 0

/-- The sums over pods without a network counter. -/
def sumsOf (values : List PodMetricsPoint) : Sums where
  checkExist := values.length
  cpuusage := total (fun point => trimmed 1 point.cpuUsageNanoCores) values
  memoryusage := total (fun point => trimmed 2 point.memoryUsageBytes) values
  fsusage := total (fun point => trimmed 2 point.fsUsedBytes) values

theorem total_append (figure : MetricsPoint → Int64) (values : List PodMetricsPoint)
    (value : PodMetricsPoint) :
    total figure (values ++ [value]) = total figure values + figure value.metricsPoint := by
  unfold total
  rw [List.map_append, List.foldl_append]
  rfl

/-- One more pod. -/
theorem podTurn_sumsOf (hbooks : books.Quiet) {replicaset : ReplicaSet} {value : PodMetricsPoint}
    (hcounts : Counts replicaset value) (hvalue : Unmetered value)
    (values : List PodMetricsPoint) :
    ∃ books' : NetworkBooks, books'.Quiet ∧
      podTurn replicaset (sumsOf values, books) value = (sumsOf (values ++ [value]), books') := by
  have hread : parseInt ({} : Quantity).string = 0 := by decide
  have henter := hbooks.enter value.name
  have hquiet : ∀ last, networkDifference 0 0 last = 0 := fun last => if_pos rfl
  refine ⟨_, henter.record value.name 0 0, ?_⟩
  unfold podTurn
  rw [if_pos hcounts]
  dsimp only
  rw [hvalue.1, hvalue.2, hread, (henter value.name).1, (henter value.name).2, hquiet, hquiet]
  unfold sumsOf
  rw [total_append, total_append, total_append, List.length_append]
  rfl

/-- The sums over the pods of a replica set. -/
theorem foldl_podTurn {replicaset : ReplicaSet} {podList : List PodMetricsPoint}
    (hpods : ∀ value ∈ podList, Unmetered value) (hbooks : books.Quiet) :
    ∃ books' : NetworkBooks, books'.Quiet ∧
      podList.foldl (podTurn replicaset) ({}, books) =
        (sumsOf (podList.filter (Counts replicaset)), books') := by
  induction podList using List.reverseRecOn with
  | nil => exact ⟨books, hbooks, rfl⟩
  | append_singleton podList value ih =>
      obtain ⟨books', hbooks', hfold⟩ := ih fun v hv => hpods v (List.mem_append_left _ hv)
      rw [List.foldl_append, hfold, List.foldl_cons, List.foldl_nil, List.filter_append]
      by_cases hcounts : Counts replicaset value
      · have hvalue := hpods value (List.mem_append_right _ List.mem_cons_self)
        rw [List.filter_cons_of_pos (by simpa using hcounts), List.filter_nil]
        exact podTurn_sumsOf hbooks' hcounts hvalue _
      · refine ⟨books', hbooks', ?_⟩
        rw [List.filter_cons_of_neg (by simpa using hcounts), List.filter_nil, List.append_nil]
        exact if_neg hcounts

end Quiet

/-! ## The posts -/

variable {server : Server} {host token : String}

/-- Every request can be built and gets a response, when `n` were sent before. -/
def Delivers (server : Server) (n : Nat) (reqs : List PostRequest) : Prop :=
  ∀ i req, reqs[i]? = some req → server.newRequest req.url ∧ server.responds (n + i) req

theorem delivers_cons {n : Nat} {req : PostRequest} {reqs : List PostRequest} :
    Delivers server n (req :: reqs) ↔
      (server.newRequest req.url ∧ server.responds n req) ∧ Delivers server (n + 1) reqs := by
  constructor
  · intro h
    refine ⟨h 0 req rfl, ?_⟩
    intro i other hother
    rw [Nat.add_assoc, Nat.add_comm 1 i]
    exact h (i + 1) other hother
  · intro h i other hother
    cases i with
    | zero =>
        cases hother
        exact h.1
    | succ i =>
        have hrest := h.2 i other hother
        rwa [Nat.add_assoc, Nat.add_comm 1 i] at hrest

@[simp] theorem delivers_nil {n : Nat} : Delivers server n [] := by
  intro i req h
  cases h

theorem delivers_append {n : Nat} {reqs reqs' : List PostRequest} :
    Delivers server n (reqs ++ reqs') ↔
      Delivers server n reqs ∧ Delivers server (n + reqs.length) reqs' := by
  induction reqs generalizing n with
  | nil => simp
  | cons req reqs ih =>
      rw [List.cons_append, delivers_cons, delivers_cons, ih, List.length_cons, Nat.add_assoc,
        Nat.add_comm 1, and_assoc (c := Delivers server _ reqs')]

/-- One post. -/
theorem postData_eq_ok {resourceNamespace name : String} {metric : String × String}
    {sent sent' : List PostRequest} :
    let req := postRequest server host token resourceNamespace name metric
    postData server host token resourceNamespace name sent metric = .ok sent' ↔
      (server.newRequest req.url ∧ server.responds sent.length req) ∧ sent' = sent ++ [req] := by
  intro req
  unfold postData
  dsimp only
  by_cases hbuilt : server.newRequest req.url
  · rw [if_pos hbuilt]
    by_cases hresponse : server.responds sent.length req
    · rw [if_pos hresponse, Except.ok.injEq]
      constructor
      · intro h
        exact ⟨⟨hbuilt, hresponse⟩, h.symm⟩
      · intro h
        exact h.2.symm
    · rw [if_neg hresponse]
      simp [hresponse]
  · rw [if_neg hbuilt]
    simp [hbuilt]

/-- The posts of a replica set. -/
theorem foldlM_postData {resourceNamespace name : String} {metrics : List (String × String)}
    {sent sent' : List PostRequest} :
    let reqs := metrics.map (postRequest server host token resourceNamespace name)
    metrics.foldlM (postData server host token resourceNamespace name) sent = .ok sent' ↔
      Delivers server sent.length reqs ∧ sent' = sent ++ reqs := by
  dsimp only
  induction metrics generalizing sent with
  | nil =>
      rw [List.foldlM_nil, pure_eq_ok, Except.ok.injEq, List.map_nil, List.append_nil]
      constructor
      · intro h
        exact ⟨delivers_nil, h.symm⟩
      · intro h
        exact h.2.symm
  | cons metric metrics ih =>
      rw [List.foldlM_cons, bind_eq_ok, List.map_cons, delivers_cons]
      constructor
      · intro h
        obtain ⟨sent₁, hpost, hrest⟩ := h
        obtain ⟨hone, rfl⟩ := postData_eq_ok.mp hpost
        obtain ⟨hdelivers, rfl⟩ := ih.mp hrest
        rw [List.length_append, List.length_singleton] at hdelivers
        exact ⟨⟨hone, hdelivers⟩, by rw [List.append_assoc, List.singleton_append]⟩
      · intro h
        obtain ⟨⟨hone, hdelivers⟩, rfl⟩ := h
        refine ⟨_, postData_eq_ok.mpr ⟨hone, rfl⟩, ih.mpr ⟨?_, ?_⟩⟩
        · rwa [List.length_append, List.length_singleton]
        · rw [List.append_assoc, List.singleton_append]

/-- A turn that sends these requests: it returns exactly when it is fit to and they are
delivered. -/
structure Sends (server : Server) (turn : DeployState → Go PostFrame DeployState) (fit : Prop)
    (reqs : List PostRequest) : Prop where
  sent : ∀ {state state'}, state.books.Quiet → turn state = .ok state' →
    state'.books.Quiet ∧ fit ∧ Delivers server state.sent.length reqs ∧
      state'.sent = state.sent ++ reqs
  returns : ∀ {state}, state.books.Quiet → fit → Delivers server state.sent.length reqs →
    ∃ state', turn state = .ok state'

/-- A loop of such turns. -/
theorem sends_foldlM {α : Type} {turn : DeployState → α → Go PostFrame DeployState}
    {fit : α → Prop} {reqs : α → List PostRequest} {xs : List α}
    (h : ∀ x ∈ xs, Sends server (turn · x) (fit x) (reqs x)) :
    Sends server (xs.foldlM turn) (∀ x ∈ xs, fit x) (xs.flatMap reqs) := by
  induction xs with
  | nil =>
      constructor
      · intro state state' hquiet hrun
        cases hrun
        exact ⟨hquiet, by simp, delivers_nil, (List.append_nil _).symm⟩
      · intro state _ _ _
        exact ⟨state, rfl⟩
  | cons x xs ih =>
      have hx := h x List.mem_cons_self
      have hxs := ih fun y hy => h y (List.mem_cons_of_mem x hy)
      constructor
      · intro state state' hquiet hrun
        rw [List.foldlM_cons] at hrun
        obtain ⟨state₁, hturn, hrest⟩ := bind_eq_ok.mp hrun
        obtain ⟨hquiet₁, hfit, hdelivers, hsent⟩ := hx.sent hquiet hturn
        obtain ⟨hquiet', hfits, hdelivers', hsent'⟩ := hxs.sent hquiet₁ hrest
        rw [hsent, List.length_append] at hdelivers'
        refine ⟨hquiet', ?_, ?_, ?_⟩
        · exact List.forall_mem_cons.mpr ⟨hfit, hfits⟩
        · rw [List.flatMap_cons]
          exact delivers_append.mpr ⟨hdelivers, hdelivers'⟩
        · rw [hsent', hsent, List.flatMap_cons, List.append_assoc]
      · intro state hquiet hfits hdelivers
        rw [List.flatMap_cons] at hdelivers
        obtain ⟨hfirst, hlater⟩ := delivers_append.mp hdelivers
        obtain ⟨hfit, hfits⟩ := List.forall_mem_cons.mp hfits
        obtain ⟨state₁, hturn⟩ := hx.returns hquiet hfit hfirst
        obtain ⟨hquiet₁, _, _, hsent⟩ := hx.sent hquiet hturn
        obtain ⟨state', hrest⟩ := hxs.returns hquiet₁ hfits
          (by rw [hsent, List.length_append]; exact hlater)
        exact ⟨state', by rw [List.foldlM_cons, hturn, ok_bind, hrest]⟩

/-! ## The calls -/

/-- What is posted for a replica set that has pods. -/
def postsFor (server : Server) (host token : String) (podList : List PodMetricsPoint)
    (replicaset : ReplicaSet) : List PostRequest :=
  let matched := podList.filter (Counts replicaset)
  if matched = [] then []
  else (sumsOf matched).metrics.map
    (postRequest server host token replicaset.setNamespace (beforeHyphen replicaset.name))

/-- The pods of a call. -/
def podsOf (call : Collection × Option (List ReplicaSet)) : List PodMetricsPoint :=
  call.1.metricsbatchs.flatMap MetricsBatch.pods

/-- The replica sets of a call. -/
def itemsOf (call : Collection × Option (List ReplicaSet)) : List ReplicaSet := call.2.getD []

/-- What a call posts. -/
def postsOf (server : Server) (host token : String)
    (call : Collection × Option (List ReplicaSet)) : List PostRequest :=
  (itemsOf call).flatMap (postsFor server host token (podsOf call))

/-- The replica set has a hyphen in its name or no pods. -/
def Hyphenated (podList : List PodMetricsPoint) (replicaset : ReplicaSet) : Prop :=
  (∃ value ∈ podList, Counts replicaset value) → '-' ∈ replicaset.name.toList

/-- A replica set without pods may have any name. -/
theorem hyphenated_iff {podList : List PodMetricsPoint} {replicaset : ReplicaSet} :
    Hyphenated podList replicaset ↔
      podList.filter (Counts replicaset) = [] ∨ '-' ∈ replicaset.name.toList := by
  unfold Hyphenated
  rw [List.filter_eq_nil_iff]
  by_cases hname : '-' ∈ replicaset.name.toList
  · simp [hname]
  · simp [hname]

/-- With a hyphen there is something in front of it. -/
theorem deploymentName_eq_ok {name name' : String} :
    deploymentName name = .ok name' ↔ '-' ∈ name.toList ∧ name' = beforeHyphen name := by
  unfold deploymentName
  by_cases hname : '-' ∈ name.toList
  · rw [if_pos hname, Except.ok.injEq]
    constructor
    · intro h
      exact ⟨hname, h.symm⟩
    · intro h
      exact h.2.symm
  · rw [if_neg hname]
    simp [hname]

variable (server host token)

/-- One replica set. -/
theorem sends_replicaSetTurn {podList : List PodMetricsPoint}
    (hpods : ∀ value ∈ podList, Unmetered value) (replicaset : ReplicaSet) :
    Sends server (replicaSetTurn server host token podList · replicaset)
      (Hyphenated podList replicaset) (postsFor server host token podList replicaset) := by
  unfold postsFor
  rw [hyphenated_iff]
  by_cases hmatched : podList.filter (Counts replicaset) = []
  · have hturn : ∀ {state : DeployState}, state.books.Quiet → ∃ books' : NetworkBooks,
        books'.Quiet ∧ replicaSetTurn server host token podList state replicaset =
          .ok ⟨books', state.sent⟩ := by
      intro state hquiet
      obtain ⟨books', hquiet', hfold⟩ := foldl_podTurn hpods hquiet
      rw [hmatched] at hfold
      refine ⟨books', hquiet', ?_⟩
      unfold replicaSetTurn
      rw [hfold]
      rfl
    simp only [hmatched, if_true]
    constructor
    · intro state state' hquiet hrun
      obtain ⟨books', hquiet', hok⟩ := hturn hquiet
      rw [hok] at hrun
      cases hrun
      exact ⟨hquiet', Or.inl trivial, delivers_nil, (List.append_nil _).symm⟩
    · intro state hquiet _ _
      obtain ⟨books', _, hok⟩ := hturn hquiet
      exact ⟨_, hok⟩
  · have hturn : ∀ {state : DeployState}, state.books.Quiet → ∃ books' : NetworkBooks,
        books'.Quiet ∧ replicaSetTurn server host token podList state replicaset =
          (deploymentName replicaset.name >>= fun name =>
            (sumsOf (podList.filter (Counts replicaset))).metrics.foldlM
              (postData server host token replicaset.setNamespace name) state.sent >>= fun sent =>
                .ok ⟨books', sent⟩) := by
      intro state hquiet
      obtain ⟨books', hquiet', hfold⟩ := foldl_podTurn hpods hquiet
      refine ⟨books', hquiet', ?_⟩
      unfold replicaSetTurn
      rw [hfold]
      exact if_pos (List.length_pos_of_ne_nil hmatched)
    simp only [hmatched, if_false, false_or]
    constructor
    · intro state state' hquiet hrun
      obtain ⟨books', hquiet', hok⟩ := hturn hquiet
      rw [hok] at hrun
      obtain ⟨name, hname, hrun⟩ := bind_eq_ok.mp hrun
      obtain ⟨sent, hposts, hrun⟩ := bind_eq_ok.mp hrun
      obtain ⟨hhyphen, rfl⟩ := deploymentName_eq_ok.mp hname
      obtain ⟨hdelivers, rfl⟩ := foldlM_postData.mp hposts
      cases hrun
      exact ⟨hquiet', hhyphen, hdelivers, rfl⟩
    · intro state hquiet hhyphen hdelivers
      obtain ⟨books', _, hok⟩ := hturn hquiet
      rw [hok, deploymentName_eq_ok.mpr ⟨hhyphen, rfl⟩, ok_bind,
        foldlM_postData.mpr ⟨hdelivers, rfl⟩]
      exact ⟨_, rfl⟩

/-- One call. -/
theorem sends_addToDeploy {call : Collection × Option (List ReplicaSet)}
    (hpods : ∀ value ∈ podsOf call, Unmetered value) :
    Sends server (addToDeployCustomMetricServer server host token · call)
      (∀ replicaset ∈ itemsOf call, Hyphenated (podsOf call) replicaset)
      (postsOf server host token call) := by
  have hloop := sends_foldlM fun replicaset (_ : replicaset ∈ itemsOf call) =>
    sends_replicaSetTurn server host token hpods replicaset
  have hcall : (addToDeployCustomMetricServer server host token · call) =
      (itemsOf call).foldlM (replicaSetTurn server host token (podsOf call)) := by
    funext state
    obtain ⟨data, items⟩ := call
    cases items with
    | none => rfl
    | some items => rfl
  rw [hcall]
  exact hloop

/-- Every batch of a call was decoded. -/
def AllDecoded (call : Collection × Option (List ReplicaSet)) : Prop :=
  ∀ batch ∈ call.1.metricsbatchs, ∃ summary err, decodeBatch summary = .ok (batch, err)

/-- Calls on decoded batches post, for each replica set that has pods, the averages of the
figures of its pods and no use of the network; and they return exactly when every such
replica set has a hyphen in its name and every post is delivered. -/
theorem addToDeployRun_eq_ok {calls : List (Collection × Option (List ReplicaSet))}
    (hdecoded : ∀ call ∈ calls, AllDecoded call) {sent : List PostRequest} :
    (∃ books, addToDeployRun server host token calls = .ok ⟨books, sent⟩) ↔
      (∀ call ∈ calls, ∀ replicaset ∈ itemsOf call, Hyphenated (podsOf call) replicaset) ∧
        Delivers server 0 (calls.flatMap (postsOf server host token)) ∧
        sent = calls.flatMap (postsOf server host token) := by
  have hpods : ∀ call ∈ calls, ∀ value ∈ podsOf call, Unmetered value := by
    intro call hcall value hvalue
    obtain ⟨batch, hbatch, hmem⟩ := List.mem_flatMap.mp hvalue
    obtain ⟨summary, err, hdecode⟩ := hdecoded call hcall batch hbatch
    exact unmetered_of_decodeBatch hdecode value hmem
  have hloop := sends_foldlM fun call hcall => sends_addToDeploy server host token (hpods call hcall)
  have hquiet : ({} : DeployState).books.Quiet := fun _ => ⟨rfl, rfl⟩
  unfold addToDeployRun
  constructor
  · intro h
    obtain ⟨books, hrun⟩ := h
    obtain ⟨_, hfits, hdelivers, hsent⟩ := hloop.sent hquiet hrun
    exact ⟨hfits, hdelivers, hsent⟩
  · intro h
    obtain ⟨hfits, hdelivers, rfl⟩ := h
    obtain ⟨⟨books, sent⟩, hrun⟩ := hloop.returns hquiet hfits hdelivers
    obtain ⟨_, _, _, hsent⟩ := hloop.sent hquiet hrun
    cases hsent
    exact ⟨books, hrun⟩

/-- A summary with one pod, which uses 250 millicores and a mebibyte. -/
def onePod : Stats.Summary where
  pods := [{
    podRef := { name := "web-1-a" }
    cpu := some { time := 5, usageNanoCores := some 250000000 }
    memory := some { time := 5, usageBytes := some 1048576, workingSetBytes := some 4096 }
    ephemeralStorage := some { availableBytes := some 1, capacityBytes := some 8192,
                               usedBytes := some 2048 } }]

/-- What it decodes to. -/
def onePodBatch : MetricsBatch := ((decodeBatch onePod).toOption.map Prod.fst).getD {}

/-- A server that takes every URL and responds to every request. -/
def willing : Server where
  expandEnv := id
  newRequest _ := true
  responds _ _ := true

/-- Two calls on it. -/
theorem addToDeployRun_eq_ok_of_onePod :
    ∃ books sent, addToDeployRun willing "" ""
        (List.replicate 2 (⟨[onePodBatch]⟩, some [⟨"web-1", "default"⟩])) = .ok ⟨books, sent⟩ ∧
      sent.map PostRequest.body =
        ["250n", "1Ki", "0", "0", "2Ki", "250n", "1Ki", "0", "0", "2Ki"] := by
  have hdecoded : ∀ call ∈ List.replicate 2
      ((⟨[onePodBatch]⟩, some [⟨"web-1", "default"⟩]) : Collection × Option (List ReplicaSet)),
      AllDecoded call := by
    intro call hcall batch hbatch
    rw [List.eq_of_mem_replicate hcall, List.mem_singleton] at hbatch
    exact ⟨onePod, _, by rw [hbatch]; rfl⟩
  have hrun := (@addToDeployRun_eq_ok willing "" "" _ hdecoded _).mpr
    ⟨?_, fun i req _ => ⟨rfl, rfl⟩, rfl⟩
  · obtain ⟨books, hrun⟩ := hrun
    exact ⟨books, _, hrun, by decide⟩
  · intro call hcall replicaset hmem _
    rw [List.eq_of_mem_replicate hcall] at hmem
    rw [List.mem_singleton.mp hmem]
    decide

end MetricCollector.CustomMetrics
