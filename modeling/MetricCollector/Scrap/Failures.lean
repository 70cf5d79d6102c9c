import MetricCollector.Scrap.Delivery

/-!
# Failed scrapes

A failed exchange with a kubelet ends in `GetSummary`, which drops its error, or
in the panic on malformed JSON.  So a failure is never seen as one, and the
batch of the node is decoded from an empty or a partial summary.

* `decodedFrom_of_collectNode` and `getSummary_ne_error` follow an exchange that
  did not fail, and one that did.
* `soundScrape_iff` says that a scrape is sound only if no exchange failed.
-/

namespace MetricCollector.Scrap

open GoLib Schedule Storage Stats Kubelet Decode

/-- The exchange with the kubelet of the node took place and failed. -/
def Failed (kc : KubeletClient) (bearerToken : String) (node : Node) : Prop :=
  ∃ host, node.addresses[0]? = some host ∧ kc.newRequest (kc.summaryURL host) = none ∧
    (kc.asked host bearerToken).fetched = none

/-- What a goroutine of `Scrap` gets from `CollectNode`. -/
def collectResult (kc : KubeletClient) (bearerToken : String) (node : Node) : Exec Result := do
  let (metrics, err) ← collectNode kc bearerToken node
  return { node := node.name, metrics := metrics, err := err }

/-- A call of `Scrap` on the nodes has returned in this state. -/
def Scraped (kc : KubeletClient) (bearerToken : String) (nodes : List Node) (s : State) : Prop :=
  ∃ results events, nodes.mapM (collectResult kc bearerToken) = .ok results ∧
    run step (start results) events = some s ∧ s.main = .returned

/-- The batch was decoded from the summary that the node's kubelet sent. -/
def DecodedFrom (kc : KubeletClient) (bearerToken : String) (node : Node) (batch : MetricsBatch) :
    Prop :=
  ∃ host summary err, node.addresses[0]? = some host ∧
    (kc.asked host bearerToken).fetched = some summary ∧
    decodeBatch { summary with ip := host } = .ok (batch, err)

/-- A failed exchange is an error of `GetSummary` and of `CollectNode`, and the
collection holds only what was decoded from summaries that were fetched. -/
structure SoundScrape (kc : KubeletClient) (bearerToken : String) (nodes : List Node) : Prop where
  summary : ∀ node ∈ nodes, Failed kc bearerToken node → ∀ host, node.addresses[0]? = some host →
    ∃ summary err, kc.getSummary host bearerToken = .ok (summary, some err)
  node : ∀ node ∈ nodes, Failed kc bearerToken node →
    ∃ err, collectNode kc bearerToken node = .ok (none, some err)
  collection : ∀ s, Scraped kc bearerToken nodes s → ∀ batch ∈ s.metricsbatchs,
    ∃ node ∈ nodes, DecodedFrom kc bearerToken node batch

section Collect

variable {kc : KubeletClient} {bearerToken : String} {node : Node}

/-- A batch of a node whose exchange did not fail is decoded from its summary. -/
theorem decodedFrom_of_collectNode (hsound : ¬Failed kc bearerToken node) {batch : MetricsBatch}
    {err : Option CollectError} (h : collectNode kc bearerToken node = .ok (some batch, err)) :
    DecodedFrom kc bearerToken node batch := by
  unfold collectNode at h
  rcases bind_eq_ok.mp h with ⟨host, hhost, h⟩
  rcases bind_eq_ok.mp h with ⟨⟨summary, fetchErr⟩, hsummary, h⟩
  rw [index_eq_ok] at hhost
  cases hurl : kc.newRequest (kc.summaryURL host) with
  | some urlErr =>
      -- a request that cannot be built is the one failure that is reported
      unfold KubeletClient.getSummary at hsummary
      rw [hurl] at hsummary
      cases hsummary
      cases h
  | none =>
      cases hfetched : (kc.asked host bearerToken).fetched with
      | none => exact absurd ⟨host, hhost, hurl, hfetched⟩ hsound
      | some fetched =>
          rw [getSummary_of_fetched hurl hfetched] at hsummary
          cases hsummary
          rcases bind_eq_ok.mp h with ⟨summary, hderef, h⟩
          cases hderef
          rcases bind_eq_ok.mp h with ⟨⟨batch', errs⟩, hbatch, h⟩
          cases h
          exact ⟨host, fetched, errs, hhost, hfetched, hbatch⟩

/-- A failed exchange is never an error of `GetSummary`. -/
theorem getSummary_ne_error {host : String} (hurl : kc.newRequest (kc.summaryURL host) = none)
    (hfailed : (kc.asked host bearerToken).fetched = none) (summary : Option Summary)
    (err : KubeletError) : kc.getSummary host bearerToken ≠ .ok (summary, some err) := by
  intro h
  rcases getSummary_of_failed hurl hfailed with hpanic | ⟨dropped, hdropped⟩
  · rw [hpanic] at h
    cases h
  · rw [hdropped] at h
    cases h

end Collect

/-- A scrape is sound exactly when there is no failure to report. -/
theorem soundScrape_iff (kc : KubeletClient) (bearerToken : String) (nodes : List Node) :
    SoundScrape kc bearerToken nodes ↔ ∀ node ∈ nodes, ¬Failed kc bearerToken node := by
  constructor
  · intro h node hnode hfailed
    have hreported := h.summary node hnode hfailed
    rcases hfailed with ⟨host, hhost, hurl, hfetched⟩
    rcases hreported host hhost with ⟨summary, err, herr⟩
    exact getSummary_ne_error hurl hfetched summary err herr
  · intro h
    constructor
    · intro node hnode hfailed
      exact absurd hfailed (h node hnode)
    · intro node hnode hfailed
      exact absurd hfailed (h node hnode)
    · rintro s ⟨results, events, hresults, hrun, hreturned⟩ batch hbatch
      rcases inv_of_run hrun with ⟨batches, errors, hinv⟩
      have hmem := (perm_of_returned hinv hreturned).1.mem_iff.mp hbatch
      rcases List.mem_filterMap.mp hmem with ⟨result, hresult, hmetrics⟩
      rcases exists_of_mem_mapM hresults hresult with ⟨node, hnode, hcollect⟩
      rcases bind_eq_ok.mp hcollect with ⟨⟨metrics, err⟩, hreturns, hresult⟩
      cases hresult
      cases hmetrics
      exact ⟨node, hnode, decodedFrom_of_collectNode (h node hnode) hreturns⟩

/-- A kubelet that cannot be reached. -/
def unreachable : KubeletClient where
  newRequest _ := none
  exchange _ := .transport "connection refused"

/-- Its node is scraped all the same, into a batch with nothing but the
address. -/
theorem collectNode_of_unreachable :
    collectNode unreachable "token" ⟨"node", ["10.0.0.1"]⟩ =
      .ok (some { ip := "10.0.0.1" }, some (.decode
        [⟨"unable to get valid timestamp for metric point for node %q, discarding data: %v", "",
          "no non-zero timestamp on either CPU or memory"⟩])) := by
  rfl

theorem soundScrape_fails_when_unreachable :
    ¬SoundScrape unreachable "token" [⟨"node", ["10.0.0.1"]⟩] := by
  intro h
  have hfailed : Failed unreachable "token" ⟨"node", ["10.0.0.1"]⟩ := ⟨_, rfl, rfl, rfl⟩
  rcases h.node _ List.mem_cons_self hfailed with ⟨err, herr⟩
  rw [collectNode_of_unreachable] at herr
  cases herr

end MetricCollector.Scrap
