import Flowplane.Platform.ApiDefinition

/-
**The JSON views of `platform_transformers`.**

Three functions of `src/src/api/platform_transformers.rs` build `serde_json` values rather than
typed records.  `policies_to_filters` lowers the policies of an API definition to the
configurations of the proxy filters that enforce them; `routes_to_api_summary` reads a route
configuration, given as JSON, into the summary of an API definition; `create_cross_api_metadata`
makes the metadata that marks a resource as visible from both APIs.  No handler of the sources
calls them.

A `json!` object is the map its entries build when inserted in order (`Flowplane.Value.ofList`),
and `filters[key] = …` is an insert into the map (`Flowplane.JsonObject.insert`).  Every result
is stated through lookups, which do not depend on the order of a map.  The time that
`create_cross_api_metadata` stamps is an argument.

Main definitions:

* `Flowplane.policiesToFilters` — `policies_to_filters`, with one filter entry per policy;
* `Flowplane.routesToApiSummary` — `routes_to_api_summary`, a loop over the virtual hosts;
* `Flowplane.createCrossApiMetadata` — `create_cross_api_metadata`.

Main results:

* `Flowplane.routesToApiSummary_get` — the summary lists the routes and the string domains of
  every virtual host, in order, and counts exactly the routes it lists.
-/

set_option autoImplicit false

namespace Flowplane

/-! ### Policies to filters -/

/-- The `envoy.filters.http.ratelimit` configuration of `policies_to_filters`. -/
def rateLimitFilter (rateLimit : RateLimitPolicy) : Value :=
  .ofList
    [("domain", .string "flowplane"), ("stage", .number (.posInt 0)),
     ("request_type", .string "both"), ("timeout", .string "0.025s"),
     ("rate_limit_service", .ofList
       [("transport_api_version", .string "V3"),
        ("grpc_service", .ofList
          [("envoy_grpc", .ofList [("cluster_name", .string "rate_limit_cluster")])])]),
     ("descriptors", .array
       [.ofList
         [("entries", .array
           [.ofList
             [("key", .string "rate_limit"),
              ("value", .string (toString rateLimit.requests ++ "/" ++ rateLimit.interval))]])]])]

/-- The `envoy.filters.http.cors` configuration of `policies_to_filters`. -/
def corsFilter (cors : CorsPolicy) : Value :=
  .ofList
    [("allow_origin_string_match",
       .array (cors.origins.map fun origin => .ofList [("exact", .string origin)])),
     ("allow_methods", .string (", ".intercalate cors.methods)),
     ("allow_headers", .string (", ".intercalate cors.headers)),
     ("allow_credentials", .bool cors.allowCredentials),
     ("max_age", (cors.maxAge.map fun age => Value.string (toString age)).getD .null)]

/-- The `envoy.filters.http.jwt_authn` configuration of `policies_to_filters`: the configuration
of the policy as its one provider, required on every path when the policy is. -/
def jwtAuthnFilter (auth : AuthenticationPolicy) : Value :=
  .ofList
    [("providers", .ofList [("provider", auth.config.getD (.ofList []))]),
     ("rules", .array
       [.ofList
         [("match", .ofList [("prefix", .string "/")]),
          ("requires",
            if auth.required then .ofList [("provider_name", .string "provider")]
            else .ofList [])]])]

/-- `policies_to_filters`. -/
def policiesToFilters (policies : ApiPolicies) : Value :=
  let filters := JsonObject.empty
  let filters := match policies.rateLimit with
    | some rateLimit =>
        filters.insert "envoy.filters.http.ratelimit" (rateLimitFilter rateLimit)
    | none => filters
  let filters := match policies.cors with
    | some cors => filters.insert "envoy.filters.http.cors" (corsFilter cors)
    | none => filters
  let filters := match policies.authentication with
    | some auth =>
        if auth.authType = "jwt" then
          filters.insert "envoy.filters.http.jwt_authn" (jwtAuthnFilter auth)
        else filters
    | none => filters
  filters.toValue

/-- An authentication of another type than `jwt`, alone, lowers to no filter at all. -/
example : (policiesToFilters
    ⟨none, some ⟨"basic", true, none⟩, none, none, none, none, none⟩).entries = [] := rfl

/-! ### The summary of a route configuration -/

/-- One pass of the inner loop of `routes_to_api_summary`: a domain that is a string is pushed. -/
def pushDomain (domains : List String) (domain : Value) : List String :=
  match domain.asStr with
  | some d => domains ++ [d]
  | none => domains

/-- One pass of the loop of `routes_to_api_summary` over a virtual host: its domains are pushed
one by one, then its routes are appended. -/
def summaryStep (acc : List Value × List String) (vh : Value) : List Value × List String :=
  let (allRoutes, domains) := acc
  let domains := match (vh.get "domains").bind Value.asArray with
    | some vhDomains => vhDomains.foldl pushDomain domains
    | none => domains
  let allRoutes := match (vh.get "routes").bind Value.asArray with
    | some routes => allRoutes ++ routes
    | none => allRoutes
  (allRoutes, domains)

/-- `routes_to_api_summary`. -/
def routesToApiSummary (routeName : String) (routeSpec : Value) : Value :=
  let virtualHosts := ((routeSpec.get "virtual_hosts").bind Value.asArray).getD []
  let (allRoutes, domains) := virtualHosts.foldl summaryStep ([], [])
  .ofList
    [("id", .string routeName), ("name", .string routeName),
     ("domains", .array (domains.map .string)),
     ("routeCount", .number (.posInt allRoutes.length.toUInt64)),
     ("routes", .array allRoutes), ("source", .string "native_api")]

/-- The routes of a virtual host, as the summary reads them. -/
def vhRoutes (vh : Value) : List Value := ((vh.get "routes").bind Value.asArray).getD []

/-- The domains of a virtual host that are strings, as the summary reads them. -/
def vhDomains (vh : Value) : List String :=
  (((vh.get "domains").bind Value.asArray).getD []).filterMap Value.asStr

/-- The inner loop pushes exactly the domains that are strings. -/
theorem foldl_pushDomain (domains : List String) (values : List Value) :
    values.foldl pushDomain domains = domains ++ values.filterMap Value.asStr := by
  induction values generalizing domains with
  | nil => simp
  | cons v values ih =>
      rw [List.foldl_cons, ih, List.filterMap_cons, pushDomain]
      cases v.asStr <;> simp

/-- One pass appends the routes and the string domains of its virtual host. -/
theorem summaryStep_eq (allRoutes : List Value) (domains : List String) (vh : Value) :
    summaryStep (allRoutes, domains) vh = (allRoutes ++ vhRoutes vh, domains ++ vhDomains vh) := by
  simp only [summaryStep, vhRoutes, vhDomains]
  cases (vh.get "domains").bind Value.asArray <;> cases (vh.get "routes").bind Value.asArray <;>
    simp [foldl_pushDomain]

/-- **The loop gathers every virtual host**, its routes and its string domains, in order. -/
theorem foldl_summaryStep (virtualHosts : List Value) (allRoutes : List Value)
    (domains : List String) :
    virtualHosts.foldl summaryStep (allRoutes, domains) =
      (allRoutes ++ virtualHosts.flatMap vhRoutes, domains ++ virtualHosts.flatMap vhDomains) := by
  induction virtualHosts generalizing allRoutes domains with
  | nil => simp
  | cons vh virtualHosts ih => simp [summaryStep_eq, ih]

/-- **The summary of a route configuration**: it lists the routes and the string domains of
every virtual host, in order, and counts exactly the routes it lists. -/
theorem routesToApiSummary_get (routeName : String) (routeSpec : Value) :
    let virtualHosts := ((routeSpec.get "virtual_hosts").bind Value.asArray).getD []
    (routesToApiSummary routeName routeSpec).get "routes" =
      some (.array (virtualHosts.flatMap vhRoutes)) ∧
    (routesToApiSummary routeName routeSpec).get "routeCount" =
      some (.number (.posInt (virtualHosts.flatMap vhRoutes).length.toUInt64)) ∧
    (routesToApiSummary routeName routeSpec).get "domains" =
      some (.array ((virtualHosts.flatMap vhDomains).map .string)) := by
  simp [routesToApiSummary, foldl_summaryStep, List.lookup_cons]

/-! ### Cross-API metadata -/

/-- `create_cross_api_metadata`, given the time it stamps in RFC 3339. -/
def createCrossApiMetadata (now : String) (source originalName : String) : Value :=
  .ofList
    [("source", .string source), ("original_name", .string originalName),
     ("created_via", .string source), ("managed_by", .string "flowplane"),
     ("cross_api_visible", .bool true), ("timestamp", .string now)]

end Flowplane
