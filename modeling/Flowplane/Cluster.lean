import Flowplane.Basic

/-
**Clusters: the xDS cluster specification and the bodies of the Native cluster API.**

The Platform layer lowers services and API definitions to clusters and reads clusters back.  It
does so through two families of types whose sources are not among the files: the cluster
specification of `crate::xds` (`ClusterSpec` and its parts), and the request and response bodies
of the Native cluster handlers (`api::handlers`).  They are modelled here from §3 of the spec and
from the fields the Platform code builds and reads; the fields it never touches and whose types
are not known (`least_request`, `ring_hash`, `maglev`, `expected_statuses`) are left out.

Main definitions:

* `Flowplane.EndpointSpec`, `Flowplane.HealthCheckSpec`, `Flowplane.CircuitBreakersSpec`,
  `Flowplane.OutlierDetectionSpec`, `Flowplane.ClusterSpec` — the cluster specification;
* `Flowplane.ClusterResponse` — a stored cluster as the Native API returns it;
* `Flowplane.CreateClusterBody` and its parts — the body of a Native create or update.
-/

set_option autoImplicit false

namespace Flowplane

/-! ### The cluster specification -/

/-- Modelled from the spec: `xds::EndpointSpec`, an endpoint written as `"host:port"` or as an
address. -/
inductive EndpointSpec where
  | string (s : String)
  | address (host : String) (port : UInt16)
  deriving DecidableEq, Repr

/-- Modelled from the spec: `xds::HealthCheckSpec`, an HTTP check with a path or a TCP check, with
the common timing fields and thresholds of §3. -/
inductive HealthCheckSpec where
  | http (path : String) (host : Option String) (method : Option String)
      (intervalSeconds : Option UInt64) (timeoutSeconds : Option UInt64)
      (unhealthyThreshold : Option UInt32) (healthyThreshold : Option UInt32)
  | tcp (intervalSeconds : Option UInt64) (timeoutSeconds : Option UInt64)
      (unhealthyThreshold : Option UInt32) (healthyThreshold : Option UInt32)
  deriving DecidableEq, Repr

/-- Modelled from the spec: `xds::CircuitBreakerThresholdsSpec`. -/
structure CircuitBreakerThresholdsSpec where
  maxConnections : Option UInt32
  maxPendingRequests : Option UInt32
  maxRequests : Option UInt32
  maxRetries : Option UInt32
  deriving DecidableEq, Repr

/-- Modelled from the spec: `xds::CircuitBreakersSpec`, thresholds per priority. -/
structure CircuitBreakersSpec where
  default : Option CircuitBreakerThresholdsSpec
  high : Option CircuitBreakerThresholdsSpec
  deriving DecidableEq, Repr

/-- Modelled from the spec: `xds::OutlierDetectionSpec`. -/
structure OutlierDetectionSpec where
  consecutive5xx : Option UInt32
  intervalSeconds : Option UInt64
  baseEjectionTimeSeconds : Option UInt64
  maxEjectionPercent : Option UInt32
  deriving DecidableEq, Repr

/-- Modelled from the spec: `xds::ClusterSpec`. -/
structure ClusterSpec where
  connectTimeoutSeconds : Option UInt64
  endpoints : List EndpointSpec
  useTls : Option Bool
  tlsServerName : Option String
  dnsLookupFamily : Option String
  lbPolicy : Option String
  circuitBreakers : Option CircuitBreakersSpec
  healthChecks : List HealthCheckSpec
  outlierDetection : Option OutlierDetectionSpec
  deriving DecidableEq, Repr

/-- Modelled from the spec: `api::handlers::ClusterResponse`, with the fields the Platform code
builds it from. -/
structure ClusterResponse where
  name : String
  serviceName : String
  config : ClusterSpec
  deriving DecidableEq, Repr

/-! ### The body of a Native create or update -/

/-- Modelled from the spec: `api::handlers::EndpointRequest`. -/
structure EndpointRequest where
  host : String
  port : UInt16
  deriving DecidableEq, Repr

/-- Modelled from the spec: `api::handlers::HealthCheckRequest`; the field `r#type` is `«type»`. -/
structure HealthCheckRequest where
  «type» : String
  path : Option String
  host : Option String
  method : Option String
  intervalSeconds : Option UInt64
  timeoutSeconds : Option UInt64
  healthyThreshold : Option UInt32
  unhealthyThreshold : Option UInt32
  deriving DecidableEq, Repr

/-- Modelled from the spec: `api::handlers::CircuitBreakerThresholdsRequest`. -/
structure CircuitBreakerThresholdsRequest where
  maxConnections : Option UInt32
  maxPendingRequests : Option UInt32
  maxRequests : Option UInt32
  maxRetries : Option UInt32
  deriving DecidableEq, Repr

/-- Modelled from the spec: `api::handlers::CircuitBreakersRequest`. -/
structure CircuitBreakersRequest where
  default : Option CircuitBreakerThresholdsRequest
  high : Option CircuitBreakerThresholdsRequest
  deriving DecidableEq, Repr

/-- Modelled from the spec: `api::handlers::OutlierDetectionRequest`. -/
structure OutlierDetectionRequest where
  consecutive5xx : Option UInt32
  intervalSeconds : Option UInt64
  baseEjectionTimeSeconds : Option UInt64
  maxEjectionPercent : Option UInt32
  deriving DecidableEq, Repr

/-- Modelled from the spec: `api::handlers::CreateClusterBody`. -/
structure CreateClusterBody where
  name : String
  serviceName : Option String
  endpoints : List EndpointRequest
  connectTimeoutSeconds : Option UInt64
  useTls : Option Bool
  tlsServerName : Option String
  dnsLookupFamily : Option String
  lbPolicy : Option String
  healthChecks : List HealthCheckRequest
  circuitBreakers : Option CircuitBreakersRequest
  outlierDetection : Option OutlierDetectionRequest
  deriving DecidableEq, Repr

end Flowplane
