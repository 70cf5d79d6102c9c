import MetricCollector.GoLib.Text
import MetricCollector.Grpcs
import MetricCollector.Stats

/-!
# The kubelet client

`GetSummary` asks the kubelet of a node for its summary.  What the network and
the JSON decoder make of a request is an `Exchange`, which the client is given
for every request.

* `makeRequestAndGetValue` reports a failed exchange, or panics.
* `getSummary_of_fetched` and `getSummary_of_failed` say what becomes of that
  report: `GetSummary` assigns it and does not look at it again.
* `getSummary_of_decoded` says what it returns beside the error that it drops.
-/

namespace MetricCollector.Kubelet

open GoLib Stats

/-- `url.URL`, without the parts that stay empty. -/
structure URL where
  scheme : String
  host : String
  path : String
deriving DecidableEq, Repr

/-- `http.Request`. -/
structure Request where
  method : String
  url : URL
  header : List (String × String) := []
deriving DecidableEq, Repr

/-- The body of a response. -/
inductive Body where
  /-- Not valid JSON. -/
  | malformed (text err : String)
  /-- JSON that does not fit a summary: what fits is decoded all the same. -/
  | mistyped (text : String) (decoded : Summary) (err : String)
  | summary (text : String) (decoded : Summary)

/-- The body as it was read. -/
def Body.text : Body → String
  | .malformed text _ => text
  | .mistyped text _ _ => text
  | .summary text _ => text

/-- The error of `json.Indent`. -/
def Body.indent : Body → Option String
  | .malformed _ err => some err
  | .mistyped _ _ _ => none
  | .summary _ _ => none

/-- `json.Unmarshal` into a summary that is still empty. -/
def Body.unmarshal : Body → Summary × Option String
  | .malformed _ err => ({}, some err)
  | .mistyped _ decoded err => (decoded, some err)
  | .summary _ decoded => (decoded, none)

/-- What comes back for a request. -/
inductive Exchange where
  /-- `client.Do` failed. -/
  | transport (err : String)
  /-- A response, whose body could be read or not. -/
  | response (statusCode : Nat) (status : String) (body : Except String Body)

/-- The summary, if everything went well. -/
def Exchange.fetched : Exchange → Option Summary
  | .response 200 _ (.ok (.summary _ decoded)) => some decoded
  | _ => none

/-- The errors of the client. -/
inductive KubeletError where
  | newRequest (err : String)
  | transport (err : String)
  /-- `"failed to read response body - %v"`. -/
  | readBody (err : String)
  /-- `ErrNotFound`: `"%q not found"`. -/
  | notFound (endpoint : URL)
  /-- `"request failed - %q, response: %q"`. -/
  | status (status body : String)
  /-- `"failed to parse output. Response: %q. Error: %v"`. -/
  | parse (body err : String)
deriving DecidableEq, Repr

/-- `KubeletClient`, with what the standard library answers it. -/
structure KubeletClient where
  port : Nat := 10250
  /-- The error of `http.NewRequest`. -/
  newRequest : URL → Option String
  exchange : Request → Exchange

/-- `net.JoinHostPort`. -/
def joinHostPort (host port : String) : String :=
  if host.contains ':' then "[" ++ host ++ "]:" ++ port else host ++ ":" ++ port

/-- The URL of the summary. -/
def KubeletClient.summaryURL (kc : KubeletClient) (host : String) : URL where
  scheme := "https"
  host := joinHostPort host (formatInteger kc.port)
  path := "/stats/summary"

/-- The request with the headers that are set on it. -/
def authorize (req : Request) (token : String) : Request :=
  { req with header := [("Content-Type", "application/json"), ("Authorization", "Bearer " ++ token)] }

/-- `makeRequestAndGetValue`: the value as it leaves it, and its error. -/
def KubeletClient.makeRequestAndGetValue (kc : KubeletClient) (req : Request) (token : String)
    (value : Summary) : Exec (Summary × Option KubeletError) :=
  match kc.exchange (authorize req token) with
  | .transport err => return (value, some (.transport err))
  | .response _ _ (.error err) => return (value, some (.readBody err))
  | .response statusCode status (.ok body) =>
      if statusCode = 404 then return (value, some (.notFound req.url))
      else if statusCode ≠ 200 then return (value, some (.status status body.text))
      else
        match body.indent with
        | some _ => .error ⟨.explicitPanic, .makeRequestAndGetValue⟩
        | none =>
            match body.unmarshal with
            | (decoded, some err) => return (decoded, some (.parse body.text err))
            | (decoded, none) => return (decoded, none)

/-- `GetSummary`. -/
def KubeletClient.getSummary (kc : KubeletClient) (host token : String) :
    Exec (Option Summary × Option KubeletError) :=
  match kc.newRequest (kc.summaryURL host) with
  | some err => return (none, some (.newRequest err))
  | none => do
      -- the error is assigned to `err`, which nothing reads after that
      let (summary, _) ← kc.makeRequestAndGetValue { method := "GET", url := kc.summaryURL host }
        token {}
      return (some { summary with ip := host }, none)

/-- What comes back for the request of `GetSummary`. -/
def KubeletClient.asked (kc : KubeletClient) (host token : String) : Exchange :=
  kc.exchange (authorize { method := "GET", url := kc.summaryURL host } token)

/-! ## What becomes of the exchange -/

/-- A fetched exchange is decoded and has no error. -/
theorem makeRequestAndGetValue_of_fetched {kc : KubeletClient} {req : Request} {token : String}
    {decoded : Summary} (h : (kc.exchange (authorize req token)).fetched = some decoded)
    (value : Summary) : kc.makeRequestAndGetValue req token value = .ok (decoded, none) := by
  unfold KubeletClient.makeRequestAndGetValue
  unfold Exchange.fetched at h
  split at h
  · rename_i status text decoded' hexchange
    cases h
    rw [hexchange]
    rfl
  · cases h

/-- Any other is reported, unless it stops the collector. -/
theorem makeRequestAndGetValue_of_failed {kc : KubeletClient} {req : Request} {token : String}
    (h : (kc.exchange (authorize req token)).fetched = none) (value : Summary) :
    kc.makeRequestAndGetValue req token value =
        .error ⟨.explicitPanic, .makeRequestAndGetValue⟩ ∨
      ∃ decoded err, kc.makeRequestAndGetValue req token value = .ok (decoded, some err) := by
  unfold KubeletClient.makeRequestAndGetValue
  cases hexchange : kc.exchange (authorize req token) with
  | transport err => exact Or.inr ⟨_, _, rfl⟩
  | response statusCode status body =>
      cases body with
      | error err => exact Or.inr ⟨_, _, rfl⟩
      | ok body =>
          dsimp only
          by_cases hmissing : statusCode = 404
          · rw [if_pos hmissing]
            exact Or.inr ⟨_, _, rfl⟩
          · rw [if_neg hmissing]
            by_cases hok : statusCode ≠ 200
            · rw [if_pos hok]
              exact Or.inr ⟨_, _, rfl⟩
            · rw [if_neg hok]
              rw [not_not] at hok
              cases body with
              | malformed text err => exact Or.inl rfl
              | mistyped text decoded err => exact Or.inr ⟨_, _, rfl⟩
              | summary text decoded =>
                  rw [hexchange, hok] at h
                  cases h

/-- `GetSummary` returns what it fetched, under the host's address. -/
theorem getSummary_of_fetched {kc : KubeletClient} {host token : String}
    (hurl : kc.newRequest (kc.summaryURL host) = none) {summary : Summary}
    (h : (kc.asked host token).fetched = some summary) :
    kc.getSummary host token = .ok (some { summary with ip := host }, none) := by
  unfold KubeletClient.getSummary
  rw [hurl]
  dsimp only
  rw [makeRequestAndGetValue_of_fetched h, ok_bind]
  rfl

/-- It never reports a failed exchange. -/
theorem getSummary_of_failed {kc : KubeletClient} {host token : String}
    (hurl : kc.newRequest (kc.summaryURL host) = none) (h : (kc.asked host token).fetched = none) :
    kc.getSummary host token = .error ⟨.explicitPanic, .makeRequestAndGetValue⟩ ∨
      ∃ summary, kc.getSummary host token = .ok (some summary, none) := by
  unfold KubeletClient.getSummary
  rw [hurl]
  dsimp only
  rcases makeRequestAndGetValue_of_failed h {} with hpanic | ⟨decoded, err, hreported⟩
  · left
    rw [hpanic, error_bind]
  · right
    rw [hreported, ok_bind]
    exact ⟨_, rfl⟩

/-! ## What the error leaves behind -/

/-- What is decoded of an exchange, in whole or in part, unless its body stops the
collector. -/
def Exchange.decoded : Exchange → Option Summary
  | .response 200 _ (.ok body) => if body.indent = none then some body.unmarshal.1 else none
  | _ => some {}

/-- There is no body to decode. -/
def Exchange.refused : Exchange → Bool
  | .response 200 _ (.ok _) => false
  | _ => true

theorem decoded_of_fetched {exchange : Exchange} {summary : Summary}
    (h : exchange.fetched = some summary) : exchange.decoded = some summary := by
  unfold Exchange.fetched at h
  split at h
  · cases h
    rfl
  · cases h

theorem decoded_of_refused {exchange : Exchange} (h : exchange.refused = true) :
    exchange.decoded = some {} := by
  unfold Exchange.refused at h
  unfold Exchange.decoded
  split at h
  · cases h
  · rfl

/-- Only a response with status 200 and a body is decoded. -/
theorem decoded_of_status {statusCode : Nat} (hstatus : statusCode ≠ 200) (status : String)
    (body : Except String Body) :
    (Exchange.response statusCode status body).decoded = some {} := by
  unfold Exchange.decoded
  split
  · rename_i hsame
    cases hsame
    exact absurd rfl hstatus
  · rfl

/-- The value is what was decoded, whatever the error. -/
theorem makeRequestAndGetValue_of_decoded {kc : KubeletClient} {req : Request} {token : String}
    {summary : Summary} (h : (kc.exchange (authorize req token)).decoded = some summary) :
    ∃ err, kc.makeRequestAndGetValue req token {} = .ok (summary, err) := by
  unfold KubeletClient.makeRequestAndGetValue
  cases hexchange : kc.exchange (authorize req token) with
  | transport err =>
      rw [hexchange] at h
      cases h
      exact ⟨_, rfl⟩
  | response statusCode status body =>
      rw [hexchange] at h
      by_cases hok : statusCode = 200
      · subst hok
        cases body with
        | error err =>
            cases h
            exact ⟨_, rfl⟩
        | ok body =>
            dsimp only
            rw [if_neg (by decide), if_neg (by decide)]
            cases body with
            | malformed text err => cases h
            | mistyped text decoded err =>
                cases h
                exact ⟨_, rfl⟩
            | summary text decoded =>
                cases h
                exact ⟨_, rfl⟩
      · rw [decoded_of_status hok] at h
        cases h
        cases body with
        | error err => exact ⟨_, rfl⟩
        | ok body =>
            dsimp only
            by_cases hmissing : statusCode = 404
            · rw [if_pos hmissing]
              exact ⟨_, rfl⟩
            · rw [if_neg hmissing, if_pos hok]
              exact ⟨_, rfl⟩

/-- `GetSummary` returns what was decoded, with no error. -/
theorem getSummary_of_decoded {kc : KubeletClient} {host token : String}
    (hurl : kc.newRequest (kc.summaryURL host) = none) {summary : Summary}
    (h : (kc.asked host token).decoded = some summary) :
    kc.getSummary host token = .ok (some { summary with ip := host }, none) := by
  obtain ⟨err, hreturns⟩ := makeRequestAndGetValue_of_decoded h
  unfold KubeletClient.getSummary
  rw [hurl]
  dsimp only
  rw [hreturns, ok_bind]
  rfl

/-- If nothing was, the body was not JSON, and the collector has stopped. -/
theorem getSummary_of_not_decoded {kc : KubeletClient} {host token : String}
    (hurl : kc.newRequest (kc.summaryURL host) = none)
    (h : (kc.asked host token).decoded = none) :
    kc.getSummary host token = .error ⟨.explicitPanic, .makeRequestAndGetValue⟩ := by
  unfold KubeletClient.asked Exchange.decoded at h
  unfold KubeletClient.getSummary KubeletClient.makeRequestAndGetValue
  rw [hurl]
  split at h
  · rename_i status body hexchange
    cases body with
    | malformed text err =>
        rw [hexchange]
        rfl
    | mistyped text decoded err => cases h
    | summary text decoded => cases h
  · cases h

end MetricCollector.Kubelet
