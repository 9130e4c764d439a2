import Flowplane.Json
import Flowplane.Cluster
import Flowplane.Route.Validate

/-
**API definitions of the Platform layer, and their lowering to Native resources.**

An `ApiDefinition` (`src/src/api/platform_api_definitions.rs`) describes an API gateway: a name,
a version and a base path, one upstream service, routes relative to the base path, and policies.
Creating one lowers it to a cluster (`api_to_cluster`) and to a route configuration
(`api_to_route_config`), named after the identifier of the definition with the suffixes
`-cluster` and `-routes`.

The check the create and update handlers run is the derived `ApiDefinition::validate`.  Its
struct carries no `#[validate(nested)]`, so the checks declared on `UpstreamConfig` and on
`ApiRoute` are never run from it; they are modelled all the same, as `UpstreamConfig.validate` and
`ApiRoute.validate`, since what they would reject is the question.

Main definitions:

* `Flowplane.ApiDefinition` and its parts, with the derived checks;
* `Flowplane.apiToCluster`, `Flowplane.apiToRouteConfig` — the lowering.

Main results:

* `Flowplane.apiRouteToRule_valid_iff` — which lowered route rules the Native validator accepts;
* `Flowplane.validateRoutePayload_apiToRouteConfig_eq_ok_iff` — **the lowered route configuration
  passes the Native validator exactly when the names fit, there are routes, the upstream service
  is not blank, and every route has a description of at most 100 characters (or none) and a full
  path that is not blank**.
-/

set_option autoImplicit false

namespace Flowplane

/-! ### Policies -/

/-- `RateLimitPolicy`. -/
structure RateLimitPolicy where
  requests : UInt32
  interval : String
  keyBy : Option String

/-- `AuthenticationPolicy`; the field `type` is `authType`. -/
structure AuthenticationPolicy where
  authType : String
  required : Bool
  config : Option Value

/-- `AuthorizationPolicy`. -/
structure AuthorizationPolicy where
  roles : Option (List String)
  permissions : Option (List String)

/-- `CorsPolicy`. -/
structure CorsPolicy where
  origins : List String
  methods : List String
  headers : List String
  allowCredentials : Bool
  maxAge : Option UInt32

/-- `CircuitBreakerPolicy`. -/
structure CircuitBreakerPolicy where
  maxRequests : Option UInt32
  intervalMs : Option UInt64
  consecutiveErrors : Option UInt32

/-- `RetryPolicy`. -/
structure RetryPolicy where
  attempts : UInt32
  backoff : String
  initialDelayMs : Option UInt64

/-- `TimeoutPolicy`. -/
structure TimeoutPolicy where
  request : Option UInt32
  idle : Option UInt32

/-- `ApiPolicies`. -/
structure ApiPolicies where
  rateLimit : Option RateLimitPolicy
  authentication : Option AuthenticationPolicy
  authorization : Option AuthorizationPolicy
  cors : Option CorsPolicy
  circuitBreaker : Option CircuitBreakerPolicy
  retry : Option RetryPolicy
  timeout : Option TimeoutPolicy

/-! ### API definitions -/

/-- `UpstreamEndpoint`. -/
structure UpstreamEndpoint where
  host : String
  port : UInt16
  weight : UInt32
  deriving DecidableEq, Repr

/-- `UpstreamConfig`. -/
structure UpstreamConfig where
  service : String
  endpoints : List UpstreamEndpoint
  tls : Bool
  loadBalancing : String
  deriving DecidableEq, Repr

/-- `ApiRoute`: a path relative to the base path. -/
structure ApiRoute where
  path : String
  methods : List String
  description : Option String
  policies : Option ApiPolicies

/-- `ApiDefinition`. -/
structure ApiDefinition where
  name : String
  version : String
  basePath : String
  upstream : UpstreamConfig
  routes : List ApiRoute
  policies : Option ApiPolicies
  metadata : Option Value

/-- The derived `ApiDefinition::validate`: the three names and the number of routes.  The
`upstream` and the elements of `routes` carry no `#[validate(nested)]` and are not checked. -/
def ApiDefinition.validate (api : ApiDefinition) : Except ValidationErrors Unit :=
  validationResult (validateLength "name" api.name.length (some 1) (some 100) ++
    validateLength "version" api.version.length (some 1) (some 50) ++
    validateLength "base_path" api.basePath.length (some 1) (some 255) ++
    validateLength "routes" api.routes.length (some 1) none)

/-- The derived `UpstreamConfig::validate`, which no handler runs. -/
def UpstreamConfig.validate (u : UpstreamConfig) : Except ValidationErrors Unit :=
  validationResult (validateLength "service" u.service.length (some 1) (some 100) ++
    validateLength "endpoints" u.endpoints.length (some 1) none)

/-- The derived `ApiRoute::validate`, which no handler runs. -/
def ApiRoute.validate (r : ApiRoute) : Except ValidationErrors Unit :=
  validationResult (validateLength "path" r.path.length (some 1) (some 255) ++
    validateLength "methods" r.methods.length (some 1) none)

theorem ApiDefinition.validate_eq_ok_iff (api : ApiDefinition) :
    api.validate = .ok () ↔ (1 ≤ api.name.length ∧ api.name.length ≤ 100) ∧
      (1 ≤ api.version.length ∧ api.version.length ≤ 50) ∧
      (1 ≤ api.basePath.length ∧ api.basePath.length ≤ 255) ∧ api.routes ≠ [] := by
  simp [validate, Nat.one_le_iff_ne_zero, and_assoc]

theorem UpstreamConfig.validate_eq_ok_iff (u : UpstreamConfig) :
    u.validate = .ok () ↔ (1 ≤ u.service.length ∧ u.service.length ≤ 100) ∧ u.endpoints ≠ [] := by
  simp [validate, Nat.one_le_iff_ne_zero, and_assoc]

theorem ApiRoute.validate_eq_ok_iff (r : ApiRoute) :
    r.validate = .ok () ↔ (1 ≤ r.path.length ∧ r.path.length ≤ 255) ∧ r.methods ≠ [] := by
  simp [validate, Nat.one_le_iff_ne_zero, and_assoc]

/-! ### Lowering -/

/-- `api.policies...timeout...request` as `u64`: the global request timeout, which both lowerings
read. -/
def ApiDefinition.requestTimeout (api : ApiDefinition) : Option UInt64 :=
  (api.policies.bind (·.timeout)).bind fun t => t.request.map UInt32.toUInt64

/-- `api_to_cluster`.  (Its trailing `if let Some(policies)` block has an empty body.) -/
def apiToCluster (api : ApiDefinition) (clusterName : String) : CreateClusterBody :=
  { name := clusterName
    serviceName := some api.upstream.service
    endpoints := api.upstream.endpoints.map fun ep => { host := ep.host, port := ep.port }
    connectTimeoutSeconds := api.requestTimeout
    useTls := some api.upstream.tls
    tlsServerName := none
    dnsLookupFamily := none
    lbPolicy := some api.upstream.loadBalancing
    healthChecks := []
    circuitBreakers := none
    outlierDetection := none }

variable {σ : Type}

/-- The closure of `api_to_route_config` that lowers one route: a prefix match on the full path,
forwarded to the upstream service with the global request timeout. -/
def apiRouteToRule (api : ApiDefinition) (route : ApiRoute) : RouteRuleDefinition σ :=
  { name := route.description
    «match» := { path := .prefix_ (api.basePath ++ route.path), headers := [],
                 queryParameters := [] }
    action := .forward api.upstream.service api.requestTimeout none none
    typedPerFilterConfig := [] }

/-- `api_to_route_config`: one virtual host named after the API, for every domain. -/
def apiToRouteConfig (api : ApiDefinition) (routeConfigName : String) : RouteDefinition σ :=
  { name := routeConfigName
    virtualHosts := [{ name := api.name, domains := ["*"],
                       routes := api.routes.map (apiRouteToRule api),
                       typedPerFilterConfig := [] }] }

/-! ### The lowered route configuration against the Native validator -/

/-- A lowered rule is valid exactly when the description fits a route name, the full path is
not blank and the upstream service is not blank. -/
theorem apiRouteToRule_valid_iff (api : ApiDefinition) (route : ApiRoute) :
    (apiRouteToRule (σ := σ) api route).Valid ↔
      ((∀ d ∈ route.description, 1 ≤ d.length ∧ d.length ≤ 100) ∧
        ¬ Blank (api.basePath ++ route.path)) ∧ ¬ Blank api.upstream.service := by
  constructor
  · intro h
    exact ⟨⟨h.name, h.path⟩, h.action.1⟩
  · rintro ⟨⟨hn, hp⟩, hs⟩
    exact ⟨hn, hp, by simp [apiRouteToRule], by simp [apiRouteToRule], ⟨hs, by simp, by simp⟩,
      by simp [apiRouteToRule], by simp [apiRouteToRule]⟩

theorem validateRoutePayload_apiToRouteConfig_eq_ok_iff (api : ApiDefinition) (n : String) :
    validateRoutePayload (apiToRouteConfig (σ := σ) api n) = .ok () ↔
      (1 ≤ n.length ∧ n.length ≤ 100) ∧ (1 ≤ api.name.length ∧ api.name.length ≤ 100) ∧
      api.routes ≠ [] ∧ ¬ Blank api.upstream.service ∧
      ∀ r ∈ api.routes, (∀ d ∈ r.description, 1 ≤ d.length ∧ d.length ≤ 100) ∧
        ¬ Blank (api.basePath ++ r.path) := by
  have hstar : ¬ Blank "*" := by decide
  simp only [validateRoutePayload, except_bind_unit_eq_ok, mapError_eq_ok_iff,
    RouteDefinition.validate_eq_ok_iff, forM_eq_ok_iff, validateVirtualHost_eq_ok_iff,
    apiToRouteConfig, List.mem_singleton, forall_eq, VirtualHostDefinition.valid_iff,
    List.forall_mem_map, apiRouteToRule_valid_iff]
  by_cases hr : api.routes = []
  · simp [hr]
  · rw [forall_mem_and_const_iff hr]
    simp [hstar, hr, and_assoc]

/-- **Lowering an API definition that passes its check to a route configuration named with 1 to 100
characters yields one the Native validator accepts exactly when the upstream service is not blank
and every route has a description of 1 to 100 characters or none, and a full path that is not
blank.**  The Platform check bounds none of these. -/
theorem validateRoutePayload_apiToRouteConfig_of_validate (api : ApiDefinition) (n : String)
    (hapi : api.validate = .ok ()) (hn : 1 ≤ n.length ∧ n.length ≤ 100) :
    validateRoutePayload (apiToRouteConfig (σ := σ) api n) = .ok () ↔
      ¬ Blank api.upstream.service ∧ ∀ r ∈ api.routes,
        (∀ d ∈ r.description, 1 ≤ d.length ∧ d.length ≤ 100) ∧
          ¬ Blank (api.basePath ++ r.path) := by
  obtain ⟨hname, -, -, hroutes⟩ := (ApiDefinition.validate_eq_ok_iff api).1 hapi
  rw [validateRoutePayload_apiToRouteConfig_eq_ok_iff]
  exact ⟨fun h => h.2.2.2, fun h => ⟨hn, hname, hroutes, h⟩⟩

/-- The definition of the spec's scenario S4, `users-api`. -/
def usersApi : ApiDefinition :=
  { name := "users-api", version := "1.0.0", basePath := "/api/v1/users",
    upstream := { service := "user-service",
                  endpoints := [{ host := "user-service.internal", port := 8080, weight := 100 }],
                  tls := false, loadBalancing := "ROUND_ROBIN" },
    routes := [{ path := "/", methods := ["GET", "POST"], description := none, policies := none },
               { path := "/{id}", methods := ["GET", "PUT", "DELETE"], description := none,
                 policies := none }],
    policies := none, metadata := none }

theorem validateRoutePayload_apiToRouteConfig_usersApi :
    (usersApi.validate = .ok () ∧ (1 ≤ "users-routes".length ∧ "users-routes".length ≤ 100)) ∧
      (validateRoutePayload (apiToRouteConfig (σ := Unit) usersApi "users-routes") = .ok () ↔
        ¬ Blank usersApi.upstream.service ∧ ∀ r ∈ usersApi.routes,
          (∀ d ∈ r.description, 1 ≤ d.length ∧ d.length ≤ 100) ∧
            ¬ Blank (usersApi.basePath ++ r.path)) :=
  ⟨⟨rfl, by decide⟩, validateRoutePayload_apiToRouteConfig_of_validate usersApi "users-routes"
    rfl (by decide)⟩

/-- An API definition that passes its check, but whose route carries an empty description, is
lowered to a route configuration the Native validator rejects. -/
theorem apiToRouteConfig_empty_description_rejected :
    ApiDefinition.validate { usersApi with routes := [⟨"/", ["GET"], some "", none⟩] } = .ok () ∧
    validateRoutePayload (apiToRouteConfig (σ := Unit)
      { usersApi with routes := [⟨"/", ["GET"], some "", none⟩] } "users-routes") ≠ .ok () :=
  ⟨rfl, by rw [Ne, validateRoutePayload_apiToRouteConfig_eq_ok_iff]; simp⟩

end Flowplane
