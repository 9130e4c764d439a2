import Flowplane.Platform.ApiDefinition

/-
**Services of the Platform layer, and the clusters they become.**

A `ServiceDefinition` (`src/src/api/platform_service_handlers.rs`) is the Platform view of a
cluster: endpoints with weights, a load-balancing strategy, and optional health check, circuit
breaker and outlier detection.  The create and update handlers check it with the derived
`ServiceDefinition::validate`, lower it with `service_to_cluster` and pass the result to the
Native cluster handlers; listing and reading go the other way, through
`cluster_response_to_service`.

The two directions meet two kinds of loss that a test with ordinary values never shows: a `u64`
of the cluster is cast to a `u32` of the service, and outlier-detection intervals are converted
between milliseconds and seconds by integer division and multiplication in `u64`.  Machine
integers are therefore `UInt32` and `UInt64` here, with their wrapping arithmetic.

`EndpointSpec::to_host_port`, which `cluster_response_to_service` uses for endpoints, is not among
the sources; it is a parameter of the module.

Main definitions:

* `Flowplane.ServiceDefinition` and its parts, `Flowplane.ServiceResponse`;
* `Flowplane.ServiceDefinition.validate`, `Flowplane.ServiceEndpoint.validate` — the derived
  checks;
* `Flowplane.serviceToCluster`, `Flowplane.loadBalancingToString`,
  `Flowplane.stringToLoadBalancing`, `Flowplane.clusterToServiceResponse`,
  `Flowplane.clusterResponseToService` — the conversions.

Main results:

* `Flowplane.stringToLoadBalancing_loadBalancingToString` — the strategy names round-trip;
* `Flowplane.platformValidate_skips_nested` — **the Platform checks run by the handlers do not
  reach the upstream, the routes, or the endpoint weights**.
-/

set_option autoImplicit false

namespace Flowplane

/-! ### Services -/

/-- `LoadBalancingStrategy`. -/
inductive LoadBalancingStrategy where
  | roundRobin
  | leastRequest
  | random
  | ringHash
  | maglev
  deriving DecidableEq, Repr

/-- `ServiceEndpoint`. -/
structure ServiceEndpoint where
  host : String
  port : UInt16
  weight : UInt32
  metadata : Option Value

/-- `ServiceHealthCheck`. -/
structure ServiceHealthCheck where
  path : String
  interval : UInt32
  timeout : UInt32
  healthyThreshold : UInt32
  unhealthyThreshold : UInt32
  deriving DecidableEq, Repr

/-- `ServiceCircuitBreaker`. -/
structure ServiceCircuitBreaker where
  maxRequests : Option UInt32
  maxPendingRequests : Option UInt32
  maxConnections : Option UInt32
  maxRetries : Option UInt32
  consecutiveErrors : Option UInt32
  intervalMs : Option UInt64
  deriving DecidableEq, Repr

/-- `ServiceOutlierDetection`. -/
structure ServiceOutlierDetection where
  consecutive5xx : Option UInt32
  intervalMs : Option UInt64
  baseEjectionTimeMs : Option UInt64
  maxEjectionPercent : Option UInt32
  minHealthyPercent : Option UInt32
  deriving DecidableEq, Repr

/-- `ServiceDefinition`. -/
structure ServiceDefinition where
  name : String
  endpoints : List ServiceEndpoint
  loadBalancing : LoadBalancingStrategy
  healthCheck : Option ServiceHealthCheck
  circuitBreaker : Option ServiceCircuitBreaker
  outlierDetection : Option ServiceOutlierDetection
  metadata : Option Value

/-- `ServiceResponse`. -/
structure ServiceResponse where
  name : String
  clusterId : String
  endpoints : List ServiceEndpoint
  loadBalancing : LoadBalancingStrategy
  healthCheck : Option ServiceHealthCheck
  circuitBreaker : Option ServiceCircuitBreaker
  outlierDetection : Option ServiceOutlierDetection
  metadata : Option Value

/-- `default_weight`, the weight of an endpoint that gives none. -/
def defaultWeight : UInt32 := 100

/-! ### The derived checks -/

/-- The derived `ServiceDefinition::validate`: the name and the number of endpoints.  The
endpoints carry no `#[validate(nested)]`, so their weights are not checked. -/
def ServiceDefinition.validate (s : ServiceDefinition) : Except ValidationErrors Unit :=
  validationResult (validateLength "name" s.name.length (some 1) (some 255) ++
    validateLength "endpoints" s.endpoints.length (some 1) none)

/-- The derived `ServiceEndpoint::validate`, which no handler runs: a weight from 1 to 100. -/
def ServiceEndpoint.validate (ep : ServiceEndpoint) : Except ValidationErrors Unit :=
  validationResult (validateRange "weight" ep.weight.toNat (some 1) (some 100))

theorem ServiceDefinition.validate_eq_ok_iff (s : ServiceDefinition) :
    s.validate = .ok () ↔ (1 ≤ s.name.length ∧ s.name.length ≤ 255) ∧ s.endpoints ≠ [] := by
  simp [validate, Nat.one_le_iff_ne_zero, and_assoc]

theorem ServiceEndpoint.validate_eq_ok_iff (ep : ServiceEndpoint) :
    ep.validate = .ok () ↔ 1 ≤ ep.weight.toNat ∧ ep.weight.toNat ≤ 100 := by
  simp [validate]

/-- The default weight passes the check declared on it. -/
theorem ServiceEndpoint.validate_defaultWeight (host : String) (port : UInt16)
    (metadata : Option Value) :
    ServiceEndpoint.validate ⟨host, port, defaultWeight, metadata⟩ = .ok () :=
  (validate_eq_ok_iff _).2 (show 1 ≤ defaultWeight.toNat ∧ defaultWeight.toNat ≤ 100 by decide)

/-- **The Platform checks that the handlers run do not reach nested values.**  An API definition
with an upstream without endpoints and a route without methods passes `ApiDefinition::validate`,
though `UpstreamConfig::validate` and `ApiRoute::validate` reject them; a service whose endpoint
has weight 0 passes `ServiceDefinition::validate`, though `ServiceEndpoint::validate` rejects the
endpoint. -/
theorem platformValidate_skips_nested :
    ApiDefinition.validate { usersApi with upstream := { usersApi.upstream with endpoints := [] },
                                           routes := [⟨"/", [], none, none⟩] } = .ok () ∧
    UpstreamConfig.validate { usersApi.upstream with endpoints := [] } ≠ .ok () ∧
    ApiRoute.validate ⟨"/", [], none, none⟩ ≠ .ok () ∧
    ServiceDefinition.validate ⟨"users", [⟨"users.internal", 8080, 0, none⟩], .roundRobin, none,
      none, none, none⟩ = .ok () ∧
    ServiceEndpoint.validate ⟨"users.internal", 8080, 0, none⟩ ≠ .ok () := by
  refine ⟨rfl, ?_, ?_, rfl, ?_⟩ <;>
    simp [UpstreamConfig.validate_eq_ok_iff, ApiRoute.validate_eq_ok_iff,
      ServiceEndpoint.validate_eq_ok_iff]

/-! ### Lowering and reading back -/

/-- `load_balancing_to_string`. -/
def loadBalancingToString : LoadBalancingStrategy → String
  | .roundRobin => "ROUND_ROBIN"
  | .leastRequest => "LEAST_REQUEST"
  | .random => "RANDOM"
  | .ringHash => "RING_HASH"
  | .maglev => "MAGLEV"

/-- `string_to_load_balancing`: an unknown name is round robin. -/
def stringToLoadBalancing (s : String) : LoadBalancingStrategy :=
  if s = "LEAST_REQUEST" then .leastRequest
  else if s = "RANDOM" then .random
  else if s = "RING_HASH" then .ringHash
  else if s = "MAGLEV" then .maglev
  else .roundRobin

@[simp] theorem stringToLoadBalancing_loadBalancingToString (lb : LoadBalancingStrategy) :
    stringToLoadBalancing (loadBalancingToString lb) = lb := by
  cases lb <;> decide

/-- `service_to_cluster`: the body of the Native create or update of a service's cluster. -/
def serviceToCluster (service : ServiceDefinition) : CreateClusterBody :=
  { name := service.name
    serviceName := some service.name
    endpoints := service.endpoints.map fun ep => { host := ep.host, port := ep.port }
    connectTimeoutSeconds := none
    useTls := none
    tlsServerName := none
    dnsLookupFamily := none
    lbPolicy := some (loadBalancingToString service.loadBalancing)
    healthChecks := (service.healthCheck.map fun hc =>
      [{ «type» := "http", path := some hc.path, host := none, method := none,
         intervalSeconds := some hc.interval.toUInt64, timeoutSeconds := some hc.timeout.toUInt64,
         healthyThreshold := some hc.healthyThreshold,
         unhealthyThreshold := some hc.unhealthyThreshold }]).getD []
    circuitBreakers := service.circuitBreaker.map fun cb =>
      { default := some { maxConnections := cb.maxConnections,
                          maxPendingRequests := cb.maxPendingRequests,
                          maxRequests := cb.maxRequests, maxRetries := cb.maxRetries },
        high := none }
    outlierDetection := service.outlierDetection.map fun od =>
      { consecutive5xx := od.consecutive5xx, intervalSeconds := od.intervalMs.map (· / 1000),
        baseEjectionTimeSeconds := od.baseEjectionTimeMs.map (· / 1000),
        maxEjectionPercent := od.maxEjectionPercent } }

/-- `cluster_to_service_response`: the response to a create or update echoes the request. -/
def clusterToServiceResponse (cluster : ClusterResponse) (service : ServiceDefinition) :
    ServiceResponse :=
  { name := cluster.name, clusterId := cluster.name, endpoints := service.endpoints,
    loadBalancing := service.loadBalancing, healthCheck := service.healthCheck,
    circuitBreaker := service.circuitBreaker, outlierDetection := service.outlierDetection,
    metadata := service.metadata }

/-- The closure of `cluster_response_to_service` that reads a first health check: an HTTP check
becomes the service's, with defaults 10, 3, 2 and 2, and any other check is dropped. -/
def healthCheckToService : HealthCheckSpec → Option ServiceHealthCheck
  | .http path _ _ intervalSeconds timeoutSeconds unhealthyThreshold healthyThreshold =>
      some { path := path, interval := (intervalSeconds.getD 10).toUInt32,
             timeout := (timeoutSeconds.getD 3).toUInt32,
             healthyThreshold := healthyThreshold.getD 2,
             unhealthyThreshold := unhealthyThreshold.getD 2 }
  | _ => none

/-- The closure that reads an outlier-detection block, the same in `cluster_response_to_service`
and in `cluster_to_service`: seconds become milliseconds by a multiplication in `u64`. -/
def outlierDetectionToService (od : OutlierDetectionSpec) : ServiceOutlierDetection :=
  { consecutive5xx := od.consecutive5xx, intervalMs := od.intervalSeconds.map (· * 1000),
    baseEjectionTimeMs := od.baseEjectionTimeSeconds.map (· * 1000),
    maxEjectionPercent := od.maxEjectionPercent, minHealthyPercent := none }

variable (toHostPort : EndpointSpec → Option (String × UInt32))

/-- `cluster_response_to_service`, the Platform view of a stored cluster, given
`EndpointSpec::to_host_port`. -/
def clusterResponseToService (cluster : ClusterResponse) : ServiceResponse :=
  { name := cluster.name
    clusterId := cluster.name
    endpoints := cluster.config.endpoints.filterMap fun ep => (toHostPort ep).map fun hp =>
      { host := hp.1, port := hp.2.toUInt16, weight := 100, metadata := none }
    loadBalancing := (cluster.config.lbPolicy.map stringToLoadBalancing).getD .roundRobin
    healthCheck := if !cluster.config.healthChecks.isEmpty then
        cluster.config.healthChecks.head?.bind healthCheckToService
      else none
    circuitBreaker := cluster.config.circuitBreakers.bind fun cb => cb.default.map fun t =>
      { maxRequests := t.maxRequests, maxPendingRequests := t.maxPendingRequests,
        maxConnections := t.maxConnections, maxRetries := t.maxRetries,
        consecutiveErrors := none, intervalMs := none }
    outlierDetection := cluster.config.outlierDetection.map outlierDetectionToService
    metadata := none }

/-- The guard on an empty list of checks changes nothing: the first check decides. -/
theorem clusterResponseToService_healthCheck (cluster : ClusterResponse) :
    (clusterResponseToService toHostPort cluster).healthCheck =
      cluster.config.healthChecks.head?.bind healthCheckToService := by
  simp only [clusterResponseToService]
  cases cluster.config.healthChecks <;> rfl

end Flowplane
