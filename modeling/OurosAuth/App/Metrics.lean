import Mathlib.Data.Finset.Max
import Mathlib.Data.Set.Finite.Lattice
import Mathlib.Data.Set.Finite.List
import OurosAuth.Lib.Pattern
import OurosAuth.Lib.Totals
import OurosAuth.Core.Runtime

namespace OurosAuth

open KeyValue Patterns

/-!
# Request telemetry

`prometheus_request_metrics` over a stream of requests, and how many label tuples a process can
end up with.

* `metricPath`, `authOperation`, `outcomeForStatus` — the classification of a request;
* `Registry`, `prometheusRequestMetrics` — the three metrics and their children by label values;
* `recorded_iff` — a stream records the labels of its requests, and no others;
* `total_httpRequests`, `get?_httpDuration`, `get?_authOperations` — what it counts under them;
* `labels_bounded_iff` — the labels are bounded exactly as far as the server bounds the methods,
  since the method is the one label that no table or pattern stands in front of.
-/

/-! ### Classification -/

/-- `_KNOWN_METRIC_PATHS` -/
def knownMetricPaths : List String :=
  ["/", "/health", "/ready", "/metrics", "/docs", "/openapi.json", "/redoc",
    "/v1/auth/credentials/verify", "/v1/auth/login/start", "/v1/auth/login/verify",
    "/v1/auth/token", "/v1/auth/token/refresh", "/v1/auth/password/reset/start",
    "/v1/auth/password/reset/verify", "/v1/auth/password/reset/confirm",
    "/internal/v1/identities/by-email", "/internal/v1/credentials/verify"]

/-- `/internal/v1/identities/[^/]+/\d+` -/
def identityPathPattern (rt : Runtime) : Pattern Char :=
  .literal "/internal/v1/identities/".toList
    ((Pattern.atLeastOne fun c => decide (c ≠ '/')).seq
      (.literal ['/'] (.atLeastOne rt.isDecimalDigit)))

/-- The template of the identity routes. -/
def identityRoute : String := "/internal/v1/identities/\x7baccount_type\x7d/\x7bdatabase_id\x7d"

/-- The label of every other path. -/
def unknownRoute : String := "\x7bunknown\x7d"

/-- `metric_path` -/
def metricPath (rt : Runtime) (path : String) : String :=
  if path ∈ knownMetricPaths then path
  else if (identityPathPattern rt).fullmatch path.toList = true then identityRoute
  else unknownRoute

/-- `_AUTH_OPERATIONS_BY_PATH` -/
def authOperationsByPath : Dict (String × String) String where
  entries :=
    [(("POST", "/v1/auth/credentials/verify"), "credentials_verify"),
      (("POST", "/v1/auth/login/start"), "login_start"),
      (("POST", "/v1/auth/login/verify"), "login_verify"),
      (("POST", "/v1/auth/token"), "token_issue"),
      (("POST", "/v1/auth/token/refresh"), "token_refresh"),
      (("POST", "/v1/auth/password/reset/start"), "password_reset_start"),
      (("POST", "/v1/auth/password/reset/verify"), "password_reset_verify"),
      (("POST", "/v1/auth/password/reset/confirm"), "password_reset_confirm")]
  nodup := by decide

/-- `auth_operation`; `upper` is `str.upper`. -/
def authOperation (upper : String → String) (method path : String) : Option String :=
  authOperationsByPath.get? (upper method, path)

/-- `outcome_for_status` -/
def outcomeForStatus (statusCode : ℕ) : String :=
  if statusCode < 400 then "success"
  else if statusCode < 500 then "client_error"
  else "server_error"

/-! ### The middleware -/

/-- A request on its way through the middleware. -/
structure MetricRequest where
  method : String
  path : String
  /-- the status of the response, or `none` when the handler raises -/
  handled : Option ℕ
  durationSeconds : ℚ

/-- The children of the three metrics, by their label values.  A histogram is kept as the list of
    its observations. -/
structure Registry where
  httpRequests : Dict (String × String × String) ℕ
  httpDuration : Dict (String × String) (List ℚ)
  authOperations : Dict (String × String) ℕ

/-- The metrics of a new process. -/
def Registry.empty : Registry := ⟨Dict.empty, Dict.empty, Dict.empty⟩

/-- `Counter.labels(…).inc()` -/
def inc {κ : Type} [DecidableEq κ] (counter : Dict κ ℕ) (labels : κ) : Dict κ ℕ :=
  counter.set labels ((counter.get? labels).getD 0 + 1)

/-- `Histogram.labels(…).observe(…)` -/
def observe {κ : Type} [DecidableEq κ] (histogram : Dict κ (List ℚ)) (labels : κ) (value : ℚ) :
    Dict κ (List ℚ) :=
  histogram.set labels ((histogram.get? labels).getD [] ++ [value])

/-- `prometheus_request_metrics` -/
def prometheusRequestMetrics (rt : Runtime) (upper : String → String) (registry : Registry)
    (request : MetricRequest) : Registry :=
  let route := metricPath rt request.path
  -- the status stays 500 when `call_next` raises; the `finally` block runs either way
  let responseStatus := request.handled.getD 500
  { httpRequests := inc registry.httpRequests (request.method, route, toString responseStatus)
    httpDuration := observe registry.httpDuration (request.method, route) request.durationSeconds
    authOperations :=
      match authOperation upper request.method route with
      | some operation =>
          inc registry.authOperations (operation, outcomeForStatus responseStatus)
      | none => registry.authOperations }

/-- The metrics after a stream of requests. -/
def telemetry (rt : Runtime) (upper : String → String) (requests : List MetricRequest) : Registry :=
  requests.foldl (prometheusRequestMetrics rt upper) Registry.empty

/-! ### Label tuples -/

/-- A tuple of label values of one of the three metrics. -/
inductive LabelTuple
  | httpRequests (method route status : String)
  | httpDuration (method route : String)
  | authOperations (operation outcome : String)
  deriving DecidableEq

/-- The metric has a child for the tuple. -/
def Registry.Records (registry : Registry) : LabelTuple → Prop
  | .httpRequests method route status => registry.httpRequests.get? (method, route, status) ≠ none
  | .httpDuration method route => registry.httpDuration.get? (method, route) ≠ none
  | .authOperations operation outcome => registry.authOperations.get? (operation, outcome) ≠ none

/-- The tuples one request records. -/
def MetricRequest.labels (rt : Runtime) (upper : String → String) (request : MetricRequest) :
    List LabelTuple :=
  let route := metricPath rt request.path
  let responseStatus := request.handled.getD 500
  [.httpRequests request.method route (toString responseStatus),
      .httpDuration request.method route] ++
    ((authOperation upper request.method route).map fun operation =>
      LabelTuple.authOperations operation (outcomeForStatus responseStatus)).toList

/-- What a server hands to the application: methods and status codes from given sets. -/
def MetricRequest.Served (methods : Set String) (statuses : Finset ℕ) (request : MetricRequest) :
    Prop :=
  request.method ∈ methods ∧ ∀ status ∈ request.handled, status ∈ statuses

/-- One finite set has every label tuple of every stream of requests. -/
def LabelsBounded (rt : Runtime) (upper : String → String) (methods : Set String)
    (statuses : Finset ℕ) : Prop :=
  ∃ bound : Set LabelTuple, bound.Finite ∧
    ∀ requests : List MetricRequest, (∀ request ∈ requests, request.Served methods statuses) →
      ∀ l, (telemetry rt upper requests).Records l → l ∈ bound

variable {rt : Runtime} {upper : String → String} {methods : Set String} {statuses : Finset ℕ}

/-! ### Route labels -/

/-- A route label is a known path or one of the two templates. -/
theorem metricPath_mem (path : String) :
    metricPath rt path ∈ identityRoute :: unknownRoute :: knownMetricPaths := by
  unfold metricPath
  split_ifs with hknown hidentity
  · exact List.mem_cons_of_mem _ (List.mem_cons_of_mem _ hknown)
  · exact List.mem_cons_self
  · exact List.mem_cons_of_mem _ List.mem_cons_self

/-! ### What a stream records -/

section
variable {κ : Type} [DecidableEq κ]

theorem get?_inc_ne_none {counter : Dict κ ℕ} {labels k : κ} :
    (inc counter labels).get? k ≠ none ↔ k = labels ∨ counter.get? k ≠ none := by
  rw [inc, Dict.get?_set]
  by_cases h : k = labels <;> simp [h]

theorem get?_observe_ne_none {histogram : Dict κ (List ℚ)} {labels k : κ} {value : ℚ} :
    (observe histogram labels value).get? k ≠ none ↔ k = labels ∨ histogram.get? k ≠ none := by
  rw [observe, Dict.get?_set]
  by_cases h : k = labels <;> simp [h]

end

/-- **Step lemma.** A request adds its own labels, and only these. -/
theorem records_prometheusRequestMetrics {registry : Registry} {request : MetricRequest}
    {l : LabelTuple} :
    (prometheusRequestMetrics rt upper registry request).Records l ↔
      l ∈ request.labels rt upper ∨ registry.Records l := by
  cases l with
  | httpRequests method route status =>
    simp only [Registry.Records, prometheusRequestMetrics, get?_inc_ne_none, MetricRequest.labels]
    simp
  | httpDuration method route =>
    simp only [Registry.Records, prometheusRequestMetrics, get?_observe_ne_none,
      MetricRequest.labels]
    simp
  | authOperations operation outcome =>
    simp only [Registry.Records, prometheusRequestMetrics, MetricRequest.labels]
    cases authOperation upper request.method (metricPath rt request.path) with
    | none => simp
    | some operation' => simp [get?_inc_ne_none]

/-- **Run lemma.** A stream records the labels of its requests, and no others. -/
theorem recorded_iff {requests : List MetricRequest} {l : LabelTuple} :
    (telemetry rt upper requests).Records l ↔
      ∃ request ∈ requests, l ∈ request.labels rt upper := by
  unfold telemetry
  -- the registry grows along the stream, so the induction is over any registry to start from
  suffices h : ∀ registry : Registry,
      (requests.foldl (prometheusRequestMetrics rt upper) registry).Records l ↔
        registry.Records l ∨ ∃ request ∈ requests, l ∈ request.labels rt upper by
    rw [h]
    cases l <;> simp [Registry.Records, Registry.empty]
  induction requests with
  | nil => simp
  | cons request requests ih =>
    intro registry
    rw [List.foldl_cons, ih, records_prometheusRequestMetrics, List.exists_mem_cons_iff]
    tauto

/-! ### The bounded labels -/

/-- An operation label is an entry of the table, whatever the method. -/
theorem authOperation_mem {method path operation : String}
    (h : authOperation upper method path = some operation) :
    operation ∈ authOperationsByPath.entries.map Prod.snd :=
  List.mem_map.mpr ⟨_, (Dict.mem_entries_iff _ _ _).mpr h, rfl⟩

theorem outcomeForStatus_mem (statusCode : ℕ) :
    outcomeForStatus statusCode ∈ ["success", "client_error", "server_error"] := by
  unfold outcomeForStatus
  split_ifs <;> simp

/-- The labels the source allows for some methods and status codes. -/
def labelBound (methods : Set String) (statuses : Finset ℕ) : Set LabelTuple :=
  {l | match l with
    | .httpRequests method route status =>
        method ∈ methods ∧ route ∈ identityRoute :: unknownRoute :: knownMetricPaths ∧
          status ∈ (insert 500 statuses).image (fun code : ℕ => toString code)
    | .httpDuration method route =>
        method ∈ methods ∧ route ∈ identityRoute :: unknownRoute :: knownMetricPaths
    | .authOperations operation outcome =>
        operation ∈ authOperationsByPath.entries.map Prod.snd ∧
          outcome ∈ ["success", "client_error", "server_error"]}

/-- Every label of a request is within the bound. -/
theorem labels_subset_labelBound {request : MetricRequest}
    (hserved : request.Served methods statuses) {l : LabelTuple}
    (hl : l ∈ request.labels rt upper) : l ∈ labelBound methods statuses := by
  obtain ⟨hmethod, hstatus⟩ := hserved
  have hcode : request.handled.getD 500 ∈ insert 500 statuses := by
    cases hhandled : request.handled with
    | none => exact Finset.mem_insert_self 500 statuses
    | some status => exact Finset.mem_insert_of_mem (hstatus status hhandled)
  simp only [MetricRequest.labels, List.cons_append, List.nil_append, List.mem_cons,
    Option.mem_toList, Option.map_eq_some_iff] at hl
  rcases hl with rfl | rfl | ⟨operation, hoperation, rfl⟩
  · exact ⟨hmethod, metricPath_mem _, Finset.mem_image_of_mem _ hcode⟩
  · exact ⟨hmethod, metricPath_mem _⟩
  · exact ⟨authOperation_mem hoperation, outcomeForStatus_mem _⟩

/-- Finitely many methods leave finitely many labels. -/
theorem finite_labelBound (h : methods.Finite) : (labelBound methods statuses).Finite := by
  have hroutes := List.finite_toSet (identityRoute :: unknownRoute :: knownMetricPaths)
  have hcodes := Finset.finite_toSet
    ((insert 500 statuses).image (fun code : ℕ => toString code))
  have hrequests := (h.prod (hroutes.prod hcodes)).image
    fun p => LabelTuple.httpRequests p.1 p.2.1 p.2.2
  have hduration := (h.prod hroutes).image fun p => LabelTuple.httpDuration p.1 p.2
  have hoperations := ((List.finite_toSet (authOperationsByPath.entries.map Prod.snd)).prod
    (List.finite_toSet ["success", "client_error", "server_error"])).image
    fun p => LabelTuple.authOperations p.1 p.2
  -- one finite product for each metric, and every tuple in the image of its own
  apply ((hrequests.union hduration).union hoperations).subset
  intro l hl
  cases l with
  | httpRequests method route status => exact Or.inl (Or.inl ⟨(method, route, status), hl, rfl⟩)
  | httpDuration method route => exact Or.inl (Or.inr ⟨(method, route), hl, rfl⟩)
  | authOperations operation outcome => exact Or.inr ⟨(operation, outcome), hl, rfl⟩

/-! ### The unbounded label -/

/-- A request with any method at all, whose handler raises. -/
def methodProbe (method : String) : MetricRequest := ⟨method, "/health", none, 0⟩

/-- The method of a request is a label as it stands. -/
theorem method_mem_labels (request : MetricRequest) :
    LabelTuple.httpDuration request.method (metricPath rt request.path) ∈
      request.labels rt upper := by
  simp [MetricRequest.labels]

/-- A bound on the labels is a bound on the methods. -/
theorem LabelsBounded.finite_methods (h : LabelsBounded rt upper methods statuses) :
    methods.Finite := by
  obtain ⟨bound, hfinite, hbound⟩ := h
  have hinjective : Function.Injective fun method : String =>
      LabelTuple.httpDuration method (metricPath rt "/health") :=
    fun _ _ heq => (LabelTuple.httpDuration.inj heq).1
  apply (hfinite.preimage hinjective.injOn).subset
  intro method hmethod
  show LabelTuple.httpDuration method (metricPath rt "/health") ∈ bound
  -- one request is stream enough
  apply hbound [methodProbe method]
  · simp [methodProbe, MetricRequest.Served, hmethod]
  · rw [recorded_iff]
    exact ⟨methodProbe method, List.mem_singleton_self _, method_mem_labels (methodProbe method)⟩

/-- **Label cardinality.** The streams of requests record labels from one finite set if and only
    if the server passes on finitely many method strings. -/
theorem labels_bounded_iff (rt : Runtime) (upper : String → String) (methods : Set String)
    (statuses : Finset ℕ) : LabelsBounded rt upper methods statuses ↔ methods.Finite := by
  constructor
  · exact LabelsBounded.finite_methods
  · intro h
    refine ⟨labelBound methods statuses, finite_labelBound h, ?_⟩
    intro requests hserved l hl
    obtain ⟨request, hmem, hlabel⟩ := recorded_iff.mp hl
    exact labels_subset_labelBound (hserved request hmem) hlabel

/-- A server that passes on any method of capital letters: `A`, `AA`, `AAA`, … are methods of
    their own, and so are their labels. -/
theorem method_labels_unbounded :
    ¬ LabelsBounded Runtime.sample String.toUpper
      {method | method ≠ "" ∧ ∀ c ∈ method.toList, 'A' ≤ c ∧ c ≤ 'Z'} {200} := by
  intro h
  have hinjective : Function.Injective fun n : ℕ => String.ofList (List.replicate (n + 1) 'A') := by
    intro n m heq
    have hlength := congrArg String.length heq
    simpa using hlength
  apply Set.infinite_of_injective_forall_mem hinjective _ h.finite_methods
  intro n
  constructor
  · intro hempty
    have hlength := congrArg String.length hempty
    simp at hlength
  · intro c hc
    rw [String.toList_ofList] at hc
    rw [List.eq_of_mem_replicate hc]
    decide

/-! ### What the metrics add up to -/

/-- The labels a request is counted under. -/
def MetricRequest.requestLabels (rt : Runtime) (request : MetricRequest) :
    String × String × String :=
  (request.method, metricPath rt request.path, toString (request.handled.getD 500))

/-- The labels its operation is counted under. -/
def MetricRequest.operationLabels (rt : Runtime) (upper : String → String)
    (request : MetricRequest) : Option (String × String) :=
  (authOperation upper request.method (metricPath rt request.path)).map fun operation =>
    (operation, outcomeForStatus (request.handled.getD 500))

/-- What a query can tell of the operation from the labels of a request. -/
def operationOf (upper : String → String) (labels : String × String × String) :
    Option (String × String) :=
  (authOperation upper labels.1 labels.2.1).map fun operation =>
    (operation, outcomeForStatus (Nat.ofDigitChars 10 labels.2.2.toList 0))

/-- The status label is the status, so nothing is lost. -/
theorem operationOf_requestLabels (request : MetricRequest) :
    operationOf upper (request.requestLabels rt) = request.operationLabels rt upper := by
  have hstatus (n : ℕ) : Nat.ofDigitChars 10 (toString n).toList 0 = n := by
    rw [show toString n = n.repr from rfl, Nat.repr_eq_ofList_toDigits, String.toList_ofList,
      Nat.ofDigitChars_ten_toDigits]
  simp only [operationOf, MetricRequest.requestLabels, MetricRequest.operationLabels, hstatus]

section
variable {requests : List MetricRequest}

theorem httpRequests_telemetry : (telemetry rt upper requests).httpRequests =
    requests.foldl (fun counter request => counter.add (request.requestLabels rt) 1) Dict.empty :=
  (List.foldl_hom Registry.httpRequests fun _ _ => rfl).symm

theorem authOperations_prometheusRequestMetrics (registry : Registry) (request : MetricRequest) :
    (prometheusRequestMetrics rt upper registry request).authOperations =
      (request.operationLabels rt upper).elim registry.authOperations
        (registry.authOperations.add · 1) := by
  simp only [prometheusRequestMetrics, MetricRequest.operationLabels]
  cases authOperation upper request.method (metricPath rt request.path) <;> rfl

theorem authOperations_telemetry : (telemetry rt upper requests).authOperations =
    (requests.filterMap (MetricRequest.operationLabels rt upper)).foldl
      (fun counter labels => counter.add labels 1) Dict.empty := by
  unfold telemetry
  -- a request without an operation leaves these counters as they are
  suffices h : ∀ registry : Registry,
      (requests.foldl (prometheusRequestMetrics rt upper) registry).authOperations =
        (requests.filterMap (MetricRequest.operationLabels rt upper)).foldl
          (fun counter labels => counter.add labels 1) registry.authOperations from h .empty
  induction requests with
  | nil => exact fun _ => rfl
  | cons request requests ih =>
    intro registry
    rw [List.foldl_cons, ih, authOperations_prometheusRequestMetrics]
    cases hlabels : request.operationLabels rt upper with
    | none =>
      rw [List.filterMap_cons_none hlabels]
      rfl
    | some labels =>
      rw [List.filterMap_cons_some hlabels]
      rfl

/-- A sum of request counters is the number of requests with labels in it. -/
theorem total_httpRequests (p : String × String × String → Bool) :
    (telemetry rt upper requests).httpRequests.total p =
      requests.countP fun request => p (request.requestLabels rt) := by
  rw [httpRequests_telemetry, Dict.total_foldl_count, Dict.total_empty, Nat.zero_add]

/-- An operation counter is the number of its requests. -/
theorem get?_authOperations (labels : String × String) :
    ((telemetry rt upper requests).authOperations.get? labels).getD 0 =
      requests.countP fun request => decide (request.operationLabels rt upper = some labels) := by
  rw [← Dict.total_singleton, authOperations_telemetry,
    Dict.total_foldl_count _ fun labels => labels, Dict.total_empty, Nat.zero_add,
    List.countP_filterMap]
  refine List.countP_congr fun request _ => ?_
  cases request.operationLabels rt upper <;> simp

/-- The observations under a method and a route are the durations of their requests, in order. -/
theorem get?_httpDuration (labels : String × String) :
    ((telemetry rt upper requests).httpDuration.get? labels).getD [] =
      (requests.filter fun request =>
        decide ((request.method, metricPath rt request.path) = labels)).map
          MetricRequest.durationSeconds := by
  unfold telemetry
  suffices h : ∀ registry : Registry,
      ((requests.foldl (prometheusRequestMetrics rt upper) registry).httpDuration.get?
          labels).getD [] =
        (registry.httpDuration.get? labels).getD [] ++
          (requests.filter fun request =>
            decide ((request.method, metricPath rt request.path) = labels)).map
              MetricRequest.durationSeconds from h .empty
  induction requests with
  | nil => simp
  | cons request requests ih =>
    intro registry
    rw [List.foldl_cons, ih, List.filter_cons]
    simp only [prometheusRequestMetrics, observe, Dict.get?_set, decide_eq_true_eq]
    by_cases heq : labels = (request.method, metricPath rt request.path)
    · simp [heq]
    · rw [if_neg heq, if_neg (Ne.symm heq)]

end

/-- **Telemetry adds up.** After any stream of requests the request counters sum to its length;
    under a method and a route, over all statuses, to the number of durations observed there; and
    over the labels of an operation and an outcome to its counter. -/
theorem telemetry_adds_up (rt : Runtime) (upper : String → String)
    (requests : List MetricRequest) :
    (telemetry rt upper requests).httpRequests.total (fun _ => true) = requests.length ∧
    (∀ method route, (telemetry rt upper requests).httpRequests.total
        (fun labels => decide ((labels.1, labels.2.1) = (method, route))) =
      (((telemetry rt upper requests).httpDuration.get? (method, route)).getD []).length) ∧
    ∀ operation, (telemetry rt upper requests).httpRequests.total
        (fun labels => decide (operationOf upper labels = some operation)) =
      ((telemetry rt upper requests).authOperations.get? operation).getD 0 := by
  refine ⟨?_, fun method route => ?_, fun operation => ?_⟩
  · rw [total_httpRequests, List.countP_true]
  · rw [total_httpRequests, get?_httpDuration, List.length_map, List.countP_eq_length_filter]
    rfl
  · rw [total_httpRequests, get?_authOperations]
    simp only [operationOf_requestLabels]

end OurosAuth
