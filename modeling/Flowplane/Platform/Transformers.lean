import Flowplane.Platform.Service

/-
**Clusters and services, through `platform_transformers`.**

`src/src/api/platform_transformers.rs` holds a second pair of conversions between the Native and
the Platform views of a cluster: `cluster_to_service`, which reads a bare `ClusterSpec` as a
service, and `service_to_cluster_response`, which lowers a service to the cluster the Native API
would return.  The first was written apart from `cluster_response_to_service` of the service
handlers, and the two do not agree: they use other defaults for a missing timeout and for the
thresholds, read TCP checks and high-priority circuit breakers differently, and know different
names of load-balancing policies.

It then follows a service and a cluster around the loop.  A service lowered and read back keeps
its strategy, its health check and its circuit-breaker thresholds, and its outlier-detection
intervals are rounded down to whole seconds.  A cluster read as a service and written back keeps
what the service can hold, as long as no interval is cut by the `u64` to `u32` casts and no
outlier interval wraps when seconds become milliseconds.

`generate_id_from_name` hashes with `DefaultHasher`; the hash is a parameter of the module.

Main definitions:

* `Flowplane.clusterToService` — `cluster_to_service`;
* `Flowplane.serviceToClusterResponse` — `service_to_cluster_response`;
* `Flowplane.ServiceResponse.toDefinition` — the definition a client writes back for a service
  it has listed;
* `Flowplane.isPlatformServiceCluster`, `Flowplane.clusterNameToServiceName`,
  `Flowplane.isPlatformApiRoutes` — the suffix conventions that tie a Native name to its Platform
  owner.

Main results:

* `Flowplane.parseU16_toString` — `str::parse::<u16>` reads back what `to_string` writes;
* `Flowplane.clusterToService_endpoints` — **every endpoint given as a host and a port is read as
  that host and port**, in order, whatever colons the host holds;
* `Flowplane.clusterToService_misreads_ringHash` — **the two readings of one cluster differ** in
  the policy and in the defaults of the health check;
* `Flowplane.clusterResponseToService_serviceToClusterResponse` — a service lowered and read
  back;
* `Flowplane.serviceToClusterResponse_writeBack` — a cluster read and written back.
-/

set_option autoImplicit false

namespace Flowplane

/-! ### Reading a cluster spec -/

/-- `s.rfind(c)`, with the text before and after the last `c`. -/
def splitAtLast (s : String) (c : Char) : Option (String × String) :=
  match s.data.reverse.span (· ≠ c) with
  | (_, []) => none
  | (after, _ :: before) => some (⟨before.reverse⟩, ⟨after.reverse⟩)

/-- `str::parse::<u16>`: decimal digits after an optional `+`, and no overflow. -/
def parseU16 (s : String) : Option UInt16 :=
  let digits := match s.data with
    | '+' :: rest => rest
    | cs => cs
  if digits ≠ [] ∧ digits.all Char.isDigit then
    let n := digits.foldl (fun n c => 10 * n + (c.toNat - '0'.toNat)) 0
    if n < 2 ^ 16 then some n.toUInt16 else none
  else none

/-- Text after the last `c` has no `c`, so the split falls just before it. -/
theorem splitAtLast_append {c : Char} (s t : String) (h : c ∉ t.data) :
    splitAtLast (s ++ String.singleton c ++ t) c = some (s, t) := by
  have hne : ∀ d ∈ t.data.reverse, decide (d ≠ c) = true := fun d hd =>
    decide_eq_true fun e => h (e ▸ List.mem_reverse.1 hd)
  simp only [splitAtLast, String.data_append, List.reverse_append, String.data_singleton,
    List.reverse_cons, List.reverse_nil, List.nil_append, List.append_assoc, List.singleton_append]
  rw [List.span_eq_take_drop, List.takeWhile_append_of_pos hne, List.dropWhile_append_of_pos hne]
  simp

/-- The digits of a decimal numeral. -/
theorem digitChar_decimal : ∀ d, d < 10 →
    (Nat.digitChar d).isDigit = true ∧ (Nat.digitChar d).toNat - '0'.toNat = d := by
  decide

/-- Given enough fuel, `Nat.toDigitsCore` puts before `ds` decimal digits that the fold of
`parseU16` reads back as `n`. -/
theorem toDigitsCore_ten (fuel n : ℕ) (ds : List Char) (h : n < fuel) :
    ∃ l k, Nat.toDigitsCore 10 fuel n ds = l ++ ds ∧ l ≠ [] ∧ (∀ c ∈ l, c.isDigit = true) ∧
      ∀ acc, l.foldl (fun n c => 10 * n + (c.toNat - '0'.toNat)) acc = acc * 10 ^ k + n := by
  induction fuel generalizing n ds with
  | zero => exact absurd h (Nat.not_lt_zero n)
  | succ fuel ih =>
      obtain ⟨hdigit, hvalue⟩ := digitChar_decimal (n % 10) (Nat.mod_lt _ (by decide))
      dsimp only [Nat.toDigitsCore]
      split
      · refine ⟨[Nat.digitChar (n % 10)], 1, rfl, List.cons_ne_nil _ _, by simpa using hdigit,
          fun acc => ?_⟩
        simp only [List.foldl_cons, List.foldl_nil, hvalue]
        omega
      · obtain ⟨l, k, hl, -, hdigits, hfold⟩ :=
          ih (n / 10) (Nat.digitChar (n % 10) :: ds) (by omega)
        refine ⟨l ++ [Nat.digitChar (n % 10)], k + 1, by simp [hl], by simp, ?_, fun acc => ?_⟩
        · simpa [or_imp, forall_and] using And.intro hdigits hdigit
        · rw [List.foldl_append, hfold, List.foldl_cons, List.foldl_nil, hvalue, pow_succ,
            ← mul_assoc]
          omega

/-- **`str::parse::<u16>` reads back the decimal numeral `to_string` writes.** -/
theorem parseU16_toString (p : UInt16) : parseU16 (toString p) = some p := by
  obtain ⟨l, k, hl, hne, hdigits, hfold⟩ :=
    toDigitsCore_ten (p.toNat + 1) p.toNat [] (Nat.lt_succ_self _)
  have hdata : (toString p).data = l := by simpa using hl
  obtain ⟨d, l', rfl⟩ := List.exists_cons_of_ne_nil hne
  have hd : d ≠ '+' := fun e => by simpa [e] using hdigits d (List.mem_cons_self _ _)
  unfold parseU16
  rw [hdata]
  split
  · rename_i rest e
    exact absurd (List.cons.inj e).1 hd
  · rw [if_pos ⟨hne, List.all_eq_true.2 hdigits⟩, hfold, if_pos (by simpa using p.toNat_lt)]
    rw [Nat.zero_mul, Nat.zero_add]
    exact congrArg some (UInt16.toNat.inj (UInt16.toNat_ofNat_of_lt p.toNat_lt))

/-- The closure of `cluster_to_service` that reads an endpoint: a string is split at its last
colon, and a port that does not parse is 80. -/
def endpointSpecToService : EndpointSpec → ServiceEndpoint
  | .string s =>
      match splitAtLast s ':' with
      | some (host, port) => ⟨host, (parseU16 port).getD 80, 100, none⟩
      | none => ⟨s, 80, 100, none⟩
  | .address host port => ⟨host, port, 100, none⟩

/-- The match of `cluster_to_service` on the policy name: only three names are known. -/
def lbPolicyToStrategy : Option String → LoadBalancingStrategy
  | some s =>
      if s = "ROUND_ROBIN" then .roundRobin
      else if s = "RANDOM" then .random
      else if s = "LEAST_REQUEST" then .leastRequest
      else .roundRobin
  | none => .roundRobin

/-- The closure of `cluster_to_service` that reads the first health check: any check is kept, a
TCP check with the path `/`, with defaults 10 and 5 and both thresholds 3. -/
def healthCheckSpecToService : HealthCheckSpec → ServiceHealthCheck
  | .http path _ _ intervalSeconds timeoutSeconds _ _ =>
      { path := path, interval := (intervalSeconds.getD 10).toUInt32,
        timeout := (timeoutSeconds.getD 5).toUInt32, healthyThreshold := 3,
        unhealthyThreshold := 3 }
  | .tcp intervalSeconds timeoutSeconds _ _ =>
      { path := "/", interval := (intervalSeconds.getD 10).toUInt32,
        timeout := (timeoutSeconds.getD 5).toUInt32, healthyThreshold := 3,
        unhealthyThreshold := 3 }

/-- The closure of `cluster_to_service` that reads the circuit breakers: the default thresholds,
or else the high-priority ones, with 5 consecutive errors and an interval of 10000 ms. -/
def circuitBreakersSpecToService (cb : CircuitBreakersSpec) : Option ServiceCircuitBreaker :=
  (cb.default.or cb.high).map fun t =>
    { maxRequests := t.maxRequests, maxPendingRequests := t.maxPendingRequests,
      maxConnections := t.maxConnections, maxRetries := t.maxRetries,
      consecutiveErrors := some 5, intervalMs := some 10000 }

/-- `json!({"source": "native_api", "cluster_name": name})`. -/
def nativeApiMetadata (name : String) : Value :=
  .object (.cons "source" (.string "native_api")
    (.cons "cluster_name" (.string name) .nil (List.not_mem_nil _)) (by decide))

variable (hash : String → UInt64)

/-- `generate_id_from_name`, given the hash that `DefaultHasher` gives a string: the hash modulo
1000000, in lower-case hexadecimal. -/
def generateIdFromName (name : String) : String :=
  String.mk (Nat.toDigits 16 (hash name % 1000000).toNat)

/-- `cluster_to_service`.  A `ClusterSpec` has no name, so the service is called `cluster`, and
its id is made from the policy name. -/
def clusterToService (cluster : ClusterSpec) : ServiceResponse :=
  { name := "cluster"
    clusterId := generateIdFromName hash (cluster.lbPolicy.getD "unknown") ++ "-cluster"
    endpoints := cluster.endpoints.map endpointSpecToService
    loadBalancing := lbPolicyToStrategy cluster.lbPolicy
    healthCheck := cluster.healthChecks.head?.map healthCheckSpecToService
    circuitBreaker := cluster.circuitBreakers.bind circuitBreakersSpecToService
    outlierDetection := cluster.outlierDetection.map outlierDetectionToService
    metadata := some (nativeApiMetadata (cluster.lbPolicy.getD "unknown")) }

/-- `clusters_to_services`. -/
def clustersToServices (clusters : List ClusterSpec) : List ServiceResponse :=
  clusters.map (clusterToService hash)

/-! ### Lowering a service -/

/-- `service_to_cluster_response`: the cluster a service becomes, with a connect timeout of 5 s,
no TLS, and at most one health check, an HTTP one. -/
def serviceToClusterResponse (service : ServiceDefinition) (clusterName : String) :
    ClusterResponse :=
  { name := clusterName
    serviceName := service.name
    config :=
      { connectTimeoutSeconds := some 5
        endpoints := service.endpoints.map fun ep => .address ep.host ep.port
        useTls := some false
        tlsServerName := none
        dnsLookupFamily := none
        lbPolicy := some (match service.loadBalancing with
          | .roundRobin => "ROUND_ROBIN"
          | .random => "RANDOM"
          | .leastRequest => "LEAST_REQUEST"
          | .ringHash => "RING_HASH"
          | .maglev => "MAGLEV")
        circuitBreakers := service.circuitBreaker.map fun cb =>
          { default := some { maxConnections := cb.maxConnections,
                              maxPendingRequests := cb.maxPendingRequests,
                              maxRequests := cb.maxRequests, maxRetries := cb.maxRetries },
            high := none }
        healthChecks := (service.healthCheck.map fun hc =>
          [.http hc.path none none (some hc.interval.toUInt64) (some hc.timeout.toUInt64)
            (some hc.unhealthyThreshold) (some hc.healthyThreshold)]).getD []
        outlierDetection := service.outlierDetection.map fun od =>
          { consecutive5xx := od.consecutive5xx, intervalSeconds := od.intervalMs.map (· / 1000),
            baseEjectionTimeSeconds := od.baseEjectionTimeMs.map (· / 1000),
            maxEjectionPercent := od.maxEjectionPercent } } }

/-- The policy name a service is lowered to is the one `load_balancing_to_string` gives. -/
@[simp] theorem serviceToClusterResponse_lbPolicy (service : ServiceDefinition) (n : String) :
    (serviceToClusterResponse service n).config.lbPolicy =
      some (loadBalancingToString service.loadBalancing) := by
  simp only [serviceToClusterResponse]
  cases service.loadBalancing <;> rfl

/-- The cluster the service handlers store for a `users` service: one endpoint, least requests,
an HTTP health check, default circuit-breaker thresholds and an outlier detection. -/
def usersCluster : ClusterResponse :=
  ⟨"users-cluster", "users",
   { connectTimeoutSeconds := some 5, endpoints := [.address "users.internal" 8080],
     useTls := some false, tlsServerName := none, dnsLookupFamily := none,
     lbPolicy := some "LEAST_REQUEST",
     circuitBreakers := some ⟨some ⟨some 100, some 50, some 200, some 3⟩, none⟩,
     healthChecks := [.http "/health" none none (some 10) (some 5) (some 3) (some 2)],
     outlierDetection := some ⟨some 5, some 30, some 60, some 50⟩ }⟩

/-! ### The endpoints of a cluster -/

/-- A string endpoint of a host and a decimal port, the form the seeded clusters use, is read back
as that host and port, whatever colons the host holds. -/
theorem endpointSpecToService_string (host : String) (port : UInt16) :
    endpointSpecToService (.string (host ++ ":" ++ toString port)) = ⟨host, port, 100, none⟩ := by
  obtain ⟨l, k, hl, -, hdigits, -⟩ :=
    toDigitsCore_ten (port.toNat + 1) port.toNat [] (Nat.lt_succ_self _)
  have hdata : (toString port).data = l := by simpa using hl
  have hcolon : ':' ∉ (toString port).data := fun h => by
    simpa using hdigits ':' (hdata ▸ h)
  rw [show host ++ ":" ++ toString port = host ++ String.singleton ':' ++ toString port from rfl]
  simp only [endpointSpecToService, splitAtLast_append _ _ hcolon, parseU16_toString,
    Option.getD_some]

/-- **`cluster_to_service` reads every endpoint given as a host and a port**, as the string
`host:port` or as an address, as that host and port with weight 100, in the order of the
cluster. -/
theorem clusterToService_endpoints (c : ClusterSpec) (endpoints : List (String × UInt16))
    (h : List.Forall₂ (fun (ep : EndpointSpec) (e : String × UInt16) =>
      ep = .string (e.1 ++ ":" ++ toString e.2) ∨ ep = .address e.1 e.2) c.endpoints endpoints) :
    (clusterToService hash c).endpoints = endpoints.map fun e => ⟨e.1, e.2, 100, none⟩ := by
  simp only [clusterToService]
  generalize c.endpoints = eps at h ⊢
  induction h with
  | nil => rfl
  | cons hep _ ih =>
      rw [List.map_cons, List.map_cons, ih]
      rcases hep with rfl | rfl
      · rw [endpointSpecToService_string]
      · rfl

/-- An IPv6 host written with its port, and a host given as an address. -/
theorem clusterToService_endpoints_ipv6 :
    List.Forall₂ (fun (ep : EndpointSpec) (e : String × UInt16) =>
      ep = .string (e.1 ++ ":" ++ toString e.2) ∨ ep = .address e.1 e.2)
      [.string "::1:8080", .address "users.internal" 9090]
      [("::1", 8080), ("users.internal", 9090)] ∧
    (clusterToService (fun _ => 0)
      { usersCluster.config with
        endpoints := [.string "::1:8080", .address "users.internal" 9090] }).endpoints =
      [⟨"::1", 8080, 100, none⟩, ⟨"users.internal", 9090, 100, none⟩] :=
  have h : List.Forall₂ (fun (ep : EndpointSpec) (e : String × UInt16) =>
      ep = .string (e.1 ++ ":" ++ toString e.2) ∨ ep = .address e.1 e.2)
      [.string "::1:8080", .address "users.internal" 9090]
      [("::1", 8080), ("users.internal", 9090)] :=
    .cons (.inl (by decide)) (.cons (.inr rfl) .nil)
  ⟨h, clusterToService_endpoints (fun _ => 0) { usersCluster.config with
    endpoints := [.string "::1:8080", .address "users.internal" 9090] } _ h⟩

/-! ### The two readings of a cluster -/

section Readings

variable (toHostPort : EndpointSpec → Option (String × UInt32))

/-- A cluster with the policy `RING_HASH` and an HTTP check that gives an interval but neither a
timeout nor thresholds. -/
def ringHashCluster : ClusterSpec :=
  { usersCluster.config with
    lbPolicy := some "RING_HASH"
    healthChecks := [.http "/health" none none (some 10) none none none] }

/-- **`cluster_to_service` reads a cluster otherwise than `cluster_response_to_service`**:
it has no arm for `RING_HASH`, which falls to round robin, and its health check takes a
timeout of 5 and thresholds of 3 where the service handlers take their declared defaults, 3 and
2. -/
theorem clusterToService_misreads_ringHash :
    (clusterToService hash ringHashCluster).loadBalancing = .roundRobin ∧
    (clusterResponseToService toHostPort ⟨"users-cluster", "users", ringHashCluster⟩).loadBalancing =
      .ringHash ∧
    (clusterToService hash ringHashCluster).healthCheck =
      some { path := "/health", interval := 10, timeout := 5, healthyThreshold := 3,
             unhealthyThreshold := 3 } ∧
    (clusterResponseToService toHostPort ⟨"users-cluster", "users", ringHashCluster⟩).healthCheck =
      some { path := "/health", interval := 10, timeout := 3, healthyThreshold := 2,
             unhealthyThreshold := 2 } :=
  ⟨rfl, rfl, rfl, rfl⟩

end Readings

/-! ### Around the loop -/

section Loop

variable (toHostPort : EndpointSpec → Option (String × UInt32))

/-- **A service lowered and read back.**  It keeps its strategy, its health check and its
circuit-breaker thresholds, and its outlier-detection intervals come back rounded down to whole
seconds, with no overflow on the way. -/
theorem clusterResponseToService_serviceToClusterResponse (s : ServiceDefinition) (n : String) :
    (clusterResponseToService toHostPort (serviceToClusterResponse s n)).loadBalancing =
      s.loadBalancing ∧
    (clusterResponseToService toHostPort (serviceToClusterResponse s n)).healthCheck =
      s.healthCheck ∧
    ((clusterResponseToService toHostPort (serviceToClusterResponse s n)).circuitBreaker.map
      fun cb => (cb.maxRequests, cb.maxPendingRequests, cb.maxConnections, cb.maxRetries)) =
      s.circuitBreaker.map
        (fun cb => (cb.maxRequests, cb.maxPendingRequests, cb.maxConnections, cb.maxRetries)) ∧
    ((clusterResponseToService toHostPort (serviceToClusterResponse s n)).outlierDetection.map
      fun od => (od.consecutive5xx, od.maxEjectionPercent, od.intervalMs.map UInt64.toNat,
        od.baseEjectionTimeMs.map UInt64.toNat)) =
      s.outlierDetection.map (fun od => (od.consecutive5xx, od.maxEjectionPercent,
        od.intervalMs.map (fun ms => 1000 * (ms.toNat / 1000)),
        od.baseEjectionTimeMs.map (fun ms => 1000 * (ms.toNat / 1000)))) := by
  refine ⟨?_, ?_, ?_, ?_⟩
  · simp [clusterResponseToService]
  · rw [clusterResponseToService_healthCheck]
    simp only [serviceToClusterResponse]
    cases s.healthCheck <;> simp [healthCheckToService]
  · simp only [clusterResponseToService, serviceToClusterResponse]
    cases s.circuitBreaker <;> simp
  · simp only [clusterResponseToService, serviceToClusterResponse]
    cases s.outlierDetection <;> simp [outlierDetectionToService, Option.map_map, Function.comp_def,
      uint64_div_mul_toNat]

/-- The service definition with the fields of a listed service, as a client that writes the
service back sends it. -/
def ServiceResponse.toDefinition (r : ServiceResponse) : ServiceDefinition :=
  { name := r.name, endpoints := r.endpoints, loadBalancing := r.loadBalancing,
    healthCheck := r.healthCheck, circuitBreaker := r.circuitBreaker,
    outlierDetection := r.outlierDetection, metadata := r.metadata }

/-- **A cluster read as a service and written back.**  For a cluster whose policy the service
handlers know, whose first health check is an HTTP check with every timing and threshold given,
and which has default circuit-breaker thresholds and an outlier detection, writing its Platform
view back reproduces the policy, the first check but for its host and method, the default
thresholds and the outlier detection, as long as the intervals of the check fit in 32 bits and
the outlier intervals in milliseconds fit in 64. -/
theorem serviceToClusterResponse_writeBack (cr : ClusterResponse) (n : String)
    (hlb : cr.config.lbPolicy ∈
      [some "ROUND_ROBIN", some "LEAST_REQUEST", some "RANDOM", some "RING_HASH", some "MAGLEV"])
    (path : String) (host method : Option String) (i t : UInt64) (u h : UInt32)
    (hhc : cr.config.healthChecks.head? =
      some (.http path host method (some i) (some t) (some u) (some h)))
    (cb : CircuitBreakersSpec) (th : CircuitBreakerThresholdsSpec)
    (hcb : cr.config.circuitBreakers = some cb) (hdefault : cb.default = some th)
    (od : OutlierDetectionSpec) (hod : cr.config.outlierDetection = some od)
    (hi : i.toNat < 2 ^ 32) (ht : t.toNat < 2 ^ 32)
    (hinterval : ∀ sec ∈ od.intervalSeconds, sec.toNat * 1000 < 2 ^ 64)
    (hejection : ∀ sec ∈ od.baseEjectionTimeSeconds, sec.toNat * 1000 < 2 ^ 64) :
    (serviceToClusterResponse (clusterResponseToService toHostPort cr).toDefinition
      n).config.lbPolicy = cr.config.lbPolicy ∧
    (serviceToClusterResponse (clusterResponseToService toHostPort cr).toDefinition
      n).config.healthChecks.head? =
      some (.http path none none (some i) (some t) (some u) (some h)) ∧
    ((serviceToClusterResponse (clusterResponseToService toHostPort cr).toDefinition
      n).config.circuitBreakers.bind (·.default)) = some th ∧
    (serviceToClusterResponse (clusterResponseToService toHostPort cr).toDefinition
      n).config.outlierDetection = some od := by
  refine ⟨?_, ?_, ?_, ?_⟩
  · simp only [List.mem_cons, List.mem_singleton, List.not_mem_nil, or_false] at hlb
    rcases hlb with h | h | h | h | h <;>
      simp [serviceToClusterResponse_lbPolicy, ServiceResponse.toDefinition,
        clusterResponseToService, h] <;> decide
  · simp [serviceToClusterResponse, ServiceResponse.toDefinition,
      clusterResponseToService_healthCheck, hhc, healthCheckToService,
      uint64_toUInt32_toUInt64 i hi, uint64_toUInt32_toUInt64 t ht]
  · simp [serviceToClusterResponse, ServiceResponse.toDefinition, clusterResponseToService, hcb,
      hdefault]
  · rcases od with ⟨c5, _ | ival, _ | ejection, pct⟩ <;>
      simp_all [serviceToClusterResponse, ServiceResponse.toDefinition, clusterResponseToService,
        outlierDetectionToService, uint64_mul_div]

theorem serviceToClusterResponse_writeBack_usersCluster :
    (serviceToClusterResponse (clusterResponseToService (fun _ => none) usersCluster).toDefinition
      "users-cluster").config.lbPolicy = some "LEAST_REQUEST" ∧
    (serviceToClusterResponse (clusterResponseToService (fun _ => none) usersCluster).toDefinition
      "users-cluster").config.healthChecks.head? =
      some (.http "/health" none none (some 10) (some 5) (some 3) (some 2)) ∧
    ((serviceToClusterResponse (clusterResponseToService (fun _ => none) usersCluster).toDefinition
      "users-cluster").config.circuitBreakers.bind (·.default)) =
      some ⟨some 100, some 50, some 200, some 3⟩ ∧
    (serviceToClusterResponse (clusterResponseToService (fun _ => none) usersCluster).toDefinition
      "users-cluster").config.outlierDetection = some ⟨some 5, some 30, some 60, some 50⟩ :=
  serviceToClusterResponse_writeBack (fun _ => none) usersCluster "users-cluster" (by decide)
    "/health" none none 10 5 3 2 rfl _ _ rfl rfl _ rfl (by decide) (by decide) (by decide)
    (by decide)

end Loop

/-! ### The names of derived resources -/

/-- `is_platform_service_cluster`. -/
def isPlatformServiceCluster (clusterName : String) : Bool :=
  endsWithStr clusterName "-cluster" || containsStr clusterName "-service"

/-- `cluster_name_to_service_name`. -/
def clusterNameToServiceName (clusterName : String) : String :=
  if endsWithStr clusterName "-cluster" then trimEndMatches clusterName "-cluster" else clusterName

/-- `is_platform_api_routes`. -/
def isPlatformApiRoutes (routeName : String) : Bool :=
  endsWithStr routeName "-routes" || containsStr routeName "-api-"

end Flowplane
