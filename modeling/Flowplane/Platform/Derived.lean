import Flowplane.Platform.Handlers
import Flowplane.Platform.Transformers
import Flowplane.Route.Handlers

/-
**The Native resources of an API definition, and the names that lead back to it.**

A create of an API definition (`create_api_definition_handler`,
`src/src/api/platform_api_definitions.rs`) draws an identifier and derives from the definition a
cluster, `api_to_cluster`, and a route configuration, `api_to_route_config`, named after the
identifier with the suffixes `-cluster` and `-routes`.  Three helpers of
`src/src/api/platform_transformers.rs` read a Native name back: `is_platform_service_cluster`,
`cluster_name_to_service_name` and `is_platform_api_routes`.

The route configuration has one virtual host for every domain and one rule per route, each a
prefix match on the full path forwarded to the upstream service.  Every rule takes its timeout
from the global policies: the policies a route carries for itself, which its declaration says
override the global ones, are never read.

The helpers recognise every derived name, and `cluster_name_to_service_name` leads a derived
cluster back to its definition, since an identifier drawn by `Uuid::new_v4` never ends in
`-cluster`.  They are not exact, though.  They also take for Platform resources the names that
merely contain `-service` or `-api-`, and `trim_end_matches` strips every trailing `-cluster`,
not one, so an owner whose own name ends in `-cluster` is not recovered.

Main definitions:

* `Flowplane.isUuidChar` — the characters of a hyphenated UUID.

Main results:

* `Flowplane.apiToRouteConfig_routePolicies` — **a route's own policies never reach its rule**;
* `Flowplane.apiToRouteConfig_derived` — the names, the virtual host, the rules and the summary
  of the derived route configuration, and the name and the endpoints of the derived cluster;
* `Flowplane.clusterNameToServiceName_append_iff` — stripping `-cluster` recovers an owner exactly
  when the owner's name does not itself end in `-cluster`;
* `Flowplane.platformNames_iff` — **what the three helpers decide**, as suffixes and infixes;
* `Flowplane.createApiDefinitionHandler_derivedNames` — **the names a create announces are
  recognised as derived, and the cluster's leads back to the definition**.
-/

set_option autoImplicit false

namespace Flowplane

variable {σ : Type}

/-! ### The derived route configuration -/

/-- The rules of the derived route configuration are the routes of the definition, lowered one by
one. -/
@[simp] theorem apiToRouteConfig_rules (api : ApiDefinition) (n : String) :
    (apiToRouteConfig (σ := σ) api n).virtualHosts.flatMap (·.routes) =
      api.routes.map (apiRouteToRule api) := by
  simp [apiToRouteConfig]

/-- **A route's own policies never reach its rule**: a definition lowers to the same route
configuration with every route's policies removed. -/
theorem apiToRouteConfig_routePolicies (api : ApiDefinition) (n : String) :
    apiToRouteConfig (σ := σ)
        { api with routes := api.routes.map fun r => { r with policies := none } } n =
      apiToRouteConfig api n := by
  simp [apiToRouteConfig, apiRouteToRule, ApiDefinition.requestTimeout, Function.comp_def]

/-- A definition whose single route asks for a request timeout of 5 s, under a global timeout of
30 s. -/
def timeoutOverrideApi : ApiDefinition :=
  { usersApi with
    policies := some ⟨none, none, none, none, none, none, some ⟨some 30, none⟩⟩
    routes :=
      [⟨"/", ["GET"], none, some ⟨none, none, none, none, none, none, some ⟨some 5, none⟩⟩⟩] }

/-- The route's own timeout of 5 s is dropped: its rule forwards with the global 30 s. -/
theorem apiToRouteConfig_ignores_route_timeout :
    timeoutOverrideApi.validate = .ok () ∧
      ((apiToRouteConfig (σ := Unit) timeoutOverrideApi "users-routes").virtualHosts.flatMap
        (·.routes)).map (·.action) = [.forward "user-service" (some 30) none none] :=
  ⟨rfl, rfl⟩

/-- **What a create derives from a definition with routes**: a route configuration named
`{id}-routes`, with one virtual host named after the definition for every domain, and one rule per
route, in order, named by the route's description and matching the prefix `base_path ++ path`, so
that its summary is the first full path and the upstream service; and a cluster named
`{id}-cluster`, with the hosts and ports of the upstream's endpoints, in order. -/
theorem apiToRouteConfig_derived (api : ApiDefinition) (hroutes : api.routes ≠ []) (id : String) :
    (apiToRouteConfig (σ := σ) api (id ++ "-routes")).name = id ++ "-routes" ∧
    (∃ vh, (apiToRouteConfig (σ := σ) api (id ++ "-routes")).virtualHosts = [vh] ∧
      vh.name = api.name ∧ vh.domains = ["*"] ∧
      vh.routes.map (fun r => (r.name, r.«match».path)) =
        api.routes.map fun r => (r.description, .prefix_ (api.basePath ++ r.path))) ∧
    summarizeRoute (apiToRouteConfig (σ := σ) api (id ++ "-routes")) =
      (api.basePath ++ (api.routes.head hroutes).path, api.upstream.service) ∧
    (apiToCluster api (id ++ "-cluster")).name = id ++ "-cluster" ∧
    (apiToCluster api (id ++ "-cluster")).endpoints.map (fun ep => (ep.host, ep.port)) =
      api.upstream.endpoints.map fun ep => (ep.host, ep.port) := by
  obtain ⟨name, version, basePath, upstream, _ | ⟨r, rs⟩, policies, metadata⟩ := api
  · exact absurd rfl hroutes
  refine ⟨rfl, ⟨_, rfl, rfl, rfl, by simp [apiRouteToRule]⟩, ?_, rfl, by simp [apiToCluster]⟩
  rw [summarizeRoute_of_first rfl rfl]
  rfl

theorem apiToRouteConfig_derived_usersApi :
    usersApi.routes ≠ [] ∧
    (apiToRouteConfig (σ := Unit) usersApi ("users" ++ "-routes")).name = "users" ++ "-routes" ∧
    (∃ vh, (apiToRouteConfig (σ := Unit) usersApi ("users" ++ "-routes")).virtualHosts = [vh] ∧
      vh.name = usersApi.name ∧ vh.domains = ["*"] ∧
      vh.routes.map (fun r => (r.name, r.«match».path)) =
        usersApi.routes.map fun r => (r.description, .prefix_ (usersApi.basePath ++ r.path))) ∧
    summarizeRoute (apiToRouteConfig (σ := Unit) usersApi ("users" ++ "-routes")) =
      (usersApi.basePath ++ (usersApi.routes.head (List.cons_ne_nil _ _)).path,
        usersApi.upstream.service) ∧
    (apiToCluster usersApi ("users" ++ "-cluster")).name = "users" ++ "-cluster" ∧
    (apiToCluster usersApi ("users" ++ "-cluster")).endpoints.map (fun ep => (ep.host, ep.port)) =
      usersApi.upstream.endpoints.map fun ep => (ep.host, ep.port) :=
  ⟨List.cons_ne_nil _ _, apiToRouteConfig_derived usersApi (List.cons_ne_nil _ _) "users"⟩

/-! ### Reading a derived name back -/

/-- A round of `trim_end_matches` on a text that ends with the pattern drops it. -/
theorem dropSuffixes_append {p : List Char} (hp : p ≠ []) (fuel : ℕ) (l : List Char) :
    dropSuffixes p (fuel + 1) (l ++ p) = dropSuffixes p fuel l := by
  rw [dropSuffixes, if_pos ⟨hp, List.isSuffixOf_iff_suffix.2 (List.suffix_append l p)⟩]
  simp

/-- `trim_end_matches` leaves a text that does not end with the pattern as it is. -/
theorem dropSuffixes_of_not_suffix {p l : List Char} (h : p.isSuffixOf l = false) (fuel : ℕ) :
    dropSuffixes p fuel l = l := by
  cases fuel <;> simp [dropSuffixes, h]

/-- `trim_end_matches` never lengthens a text. -/
theorem length_dropSuffixes_le (p : List Char) (fuel : ℕ) (l : List Char) :
    (dropSuffixes p fuel l).length ≤ l.length := by
  induction fuel generalizing l with
  | zero => exact le_refl _
  | succ fuel ih =>
      rw [dropSuffixes]
      split
      · exact (ih _).trans (by simp)
      · exact le_refl _

/-- A round of `trim_end_matches` shortens a text that ends with the pattern. -/
theorem length_dropSuffixes_lt {p l : List Char} (hp : p ≠ []) (h : p.isSuffixOf l = true)
    (fuel : ℕ) : (dropSuffixes p (fuel + 1) l).length < l.length := by
  have hsuffix := (List.isSuffixOf_iff_suffix.1 h).length_le
  have hpos := List.length_pos.2 hp
  rw [dropSuffixes, if_pos ⟨hp, h⟩]
  calc _ ≤ (l.take (l.length - p.length)).length := length_dropSuffixes_le _ _ _
    _ < l.length := by rw [List.length_take]; omega

theorem endsWithStr_append (s p : String) : endsWithStr (s ++ p) p = true :=
  List.isSuffixOf_iff_suffix.2 (List.suffix_append s.data p.data)

/-- **Stripping `-cluster` recovers an owner exactly when the owner's own name does not end in
`-cluster`**: `trim_end_matches` strips every trailing copy of the suffix, not one. -/
theorem clusterNameToServiceName_append_iff (s : String) :
    clusterNameToServiceName (s ++ "-cluster") = s ↔ endsWithStr s "-cluster" = false := by
  have hp : "-cluster".data ≠ [] := by decide
  have hlen : (s ++ "-cluster").data.length = s.data.length + 7 + 1 := by
    rw [String.data_append, List.length_append]
    rfl
  rw [clusterNameToServiceName, if_pos (endsWithStr_append s _), trimEndMatches, hlen,
    String.data_append, dropSuffixes_append hp]
  constructor
  · intro h
    cases hs : endsWithStr s "-cluster"
    · rfl
    · have heq : dropSuffixes "-cluster".data (s.data.length + 6 + 1) s.data = s.data :=
        congrArg String.data h
      have hshort := length_dropSuffixes_lt hp hs (s.data.length + 6)
      rw [heq] at hshort
      exact absurd hshort (lt_irrefl _)
  · intro h
    exact congrArg String.mk (dropSuffixes_of_not_suffix h _)

/-- Every derived cluster name is taken for a Platform service's. -/
theorem isPlatformServiceCluster_append (id : String) :
    isPlatformServiceCluster (id ++ "-cluster") = true := by
  simp [isPlatformServiceCluster, endsWithStr_append]

/-- Every derived route configuration name is taken for a Platform API's. -/
theorem isPlatformApiRoutes_append (id : String) :
    isPlatformApiRoutes (id ++ "-routes") = true := by
  simp [isPlatformApiRoutes, endsWithStr_append]

/-- **What the three helpers decide**, written with `++`: stripping `-cluster` recovers the
owner `s` of `s ++ "-cluster"` exactly when `s` does not itself end in `-cluster`; a name is
taken for a Platform service's cluster when it ends in `-cluster` or contains `-service`; and
for a Platform API's route configuration when it ends in `-routes` or contains `-api-`. -/
theorem platformNames_iff (s x y : String) :
    (clusterNameToServiceName (s ++ "-cluster") = s ↔ ¬ ∃ front, s = front ++ "-cluster") ∧
    (isPlatformServiceCluster x = true ↔
      (∃ front, x = front ++ "-cluster") ∨ ∃ front back, x = front ++ "-service" ++ back) ∧
    (isPlatformApiRoutes y = true ↔
      (∃ front, y = front ++ "-routes") ∨ ∃ front back, y = front ++ "-api-" ++ back) := by
  refine ⟨?_, ?_, ?_⟩
  · rw [clusterNameToServiceName_append_iff, ← endsWithStr_iff, Bool.not_eq_true]
  · rw [isPlatformServiceCluster, Bool.or_eq_true, endsWithStr_iff, containsStr_iff]
  · rw [isPlatformApiRoutes, Bool.or_eq_true, endsWithStr_iff, containsStr_iff]

/-- The helpers misread three names: the cluster `users-cluster-cluster` of an owner named
`users-cluster` is read back as `users`'s, a Native cluster `user-service` is taken for a Platform
service's, and a Native route configuration `my-api-gateway` for a Platform API's, though neither
has the suffix. -/
theorem platformNames_misread :
    clusterNameToServiceName ("users-cluster" ++ "-cluster") = "users" ∧
    isPlatformServiceCluster "user-service" = true ∧ endsWithStr "user-service" "-cluster" = false ∧
    isPlatformApiRoutes "my-api-gateway" = true ∧
      endsWithStr "my-api-gateway" "-routes" = false := by
  decide

/-! ### The names a create announces -/

/-- The characters of a UUID as `Uuid::to_string` writes it: lower-case hexadecimal digits and
hyphens. -/
def isUuidChar (c : Char) : Bool :=
  c.isDigit || ('a'.toNat ≤ c.toNat && c.toNat ≤ 'f'.toNat) || c == '-'

/-- A name made of the characters of a UUID does not end in `-cluster`, whose `l` is not one of
them. -/
theorem endsWithStr_cluster_of_uuid {s : String} (h : ∀ c ∈ s.data, isUuidChar c = true) :
    endsWithStr s "-cluster" = false := by
  cases hs : endsWithStr s "-cluster"
  · rfl
  · have hl : 'l' ∈ s.data := (List.isSuffixOf_iff_suffix.1 hs).subset (by decide)
    exact absurd (h 'l' hl) (by decide)

section Create

variable (describe : ValidationErrors → String)

/-- **The names a create announces are recognised as derived, and the cluster's leads back to the
definition**, for an identifier drawn as `Uuid::new_v4` draws it. -/
theorem createApiDefinitionHandler_derivedNames {api : ApiDefinition} {apiId now : String}
    {response : ApiDefinitionResponse} (hid : ∀ c ∈ apiId.data, isUuidChar c = true)
    (h : createApiDefinitionHandler describe api apiId now = .ok response) :
    isPlatformServiceCluster response.clusterId = true ∧
      clusterNameToServiceName response.clusterId = response.id ∧
      isPlatformApiRoutes response.routeConfigId = true := by
  obtain ⟨-, rfl⟩ := (createApiDefinitionHandler_eq_ok_iff describe api apiId now response).1 h
  exact ⟨isPlatformServiceCluster_append _,
    (clusterNameToServiceName_append_iff _).2 (endsWithStr_cluster_of_uuid hid),
    isPlatformApiRoutes_append _⟩

/-- A create of the users API under an identifier drawn by `Uuid::new_v4`. -/
theorem createApiDefinitionHandler_derivedNames_usersApi :
    (∀ c ∈ "3f6c2a1e-0b7d-4c55-9e21-7d4b1a2c9f00".data, isUuidChar c = true) ∧
      ∃ response, createApiDefinitionHandler (fun _ => "") usersApi
          "3f6c2a1e-0b7d-4c55-9e21-7d4b1a2c9f00" "2024-01-01T00:00:00Z" = .ok response ∧
        isPlatformServiceCluster response.clusterId = true ∧
        clusterNameToServiceName response.clusterId = response.id ∧
        isPlatformApiRoutes response.routeConfigId = true :=
  ⟨by decide, _, rfl, @createApiDefinitionHandler_derivedNames (fun _ => "") usersApi
    "3f6c2a1e-0b7d-4c55-9e21-7d4b1a2c9f00" "2024-01-01T00:00:00Z" _ (by decide) rfl⟩

end Create

end Flowplane
