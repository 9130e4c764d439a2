import Flowplane.Auth.Validation

/-
**Who may call which handler.**

`build_router` (`src/src/api/routes.rs`) puts every handler of the API behind two layers of
`src/src/auth/middleware.rs`: `authenticate`, which turns the `Authorization` header into an
`AuthContext` through the authentication service, and, per route, `ensure_scopes`, which lets the
request through only if the context holds every scope the route lists.  The routes and their
scopes are one table, `Flowplane.securedRoutes`, written out as the router declares them.

The authentication service and the text of an `AuthError` are not among the sources and are
parameters; `AuthContext` and `AuthContext::has_scope` are modelled from the spec (§6: the context
carries the granted scopes, and a route requires all of its own).

Main definitions:

* `Flowplane.authenticate`, `Flowplane.ensureScopes`, `Flowplane.mapAuthError` — the two
  middleware functions and the error mapping of the first;
* `Flowplane.securedRoutes`, `Flowplane.requiredScopes` — the route table and its lookup;
* `Flowplane.authorizeRoute` — both layers in front of one route.

Main results:

* `Flowplane.authorizeRoute_eq_ok_iff` — **a handler runs exactly for a caller whose token
  authenticates and holds every scope of its route**.

Facts of the table, each checked by evaluation: every route lists scopes in the language of
`SCOPE_REGEX` (`Flowplane.securedRoutes_scopes_wf`), every route but a `GET` lists a scope that
does not end in `:read` (`Flowplane.securedRoutes_write_scope`), and each Platform API write
requires the scopes of the Native creates it cascades to
(`Flowplane.requiredScopes_native_subset`).
-/

set_option autoImplicit false

namespace Flowplane

/-! ### The two layers -/

/-- The HTTP methods of the router. -/
inductive Method where
  | get
  | post
  | put
  | patch
  | delete
  | options
  deriving DecidableEq, Repr

/-- What the layers read of a request: its method and its `Authorization` header. -/
structure Request where
  method : Method
  authorization : Option String
  deriving DecidableEq, Repr

/-- Modelled from the spec: `AuthContext`, the token a request authenticated with and the scopes
it was granted. -/
structure AuthContext where
  tokenId : String
  scopes : List String
  deriving DecidableEq, Repr

/-- Modelled from the spec: `AuthContext::has_scope`, the scope was granted. -/
def AuthContext.hasScope (context : AuthContext) (scope : String) : Bool :=
  scope ∈ context.scopes

/-- Modelled from the spec: `AuthError`, the failures of the authentication service that
`map_auth_error` distinguishes. -/
inductive AuthError where
  | missingBearer
  | malformedBearer
  | tokenNotFound
  | inactiveToken
  | expiredToken
  | forbidden
  | persistence (inner : String)
  deriving DecidableEq, Repr

/-- `map_auth_error`; `describe` is the `Display` of `AuthError`. -/
def mapAuthError (describe : AuthError → String) (err : AuthError) : ApiError :=
  match err with
  | .missingBearer | .malformedBearer | .tokenNotFound | .inactiveToken | .expiredToken =>
      .unauthorized (describe err)
  | .forbidden => .forbidden (describe err)
  | .persistence inner => .serviceUnavailable ("auth service unavailable: " ++ inner)

section Layers

variable (authService : String → Except AuthError AuthContext) (describe : AuthError → String)

/-- `authenticate`: an `OPTIONS` request goes on with no context; any other is authenticated by
its `Authorization` header, the empty string when it has none, and goes on with the context. -/
def authenticate (request : Request) : Except ApiError (Option AuthContext) :=
  if request.method = .options then .ok none
  else ((authService (request.authorization.getD "")).mapError (mapAuthError describe)).map some

/-- `ensure_scopes`: every required scope is granted. -/
def ensureScopes (required : List String) (context : AuthContext) : Except ApiError Unit :=
  if required.all context.hasScope then .ok ()
  else .error (.forbidden "forbidden: missing required scope")

@[simp] theorem ensureScopes_eq_ok_iff (required : List String) (context : AuthContext) :
    ensureScopes required context = .ok () ↔ ∀ scope ∈ required, scope ∈ context.scopes := by
  unfold ensureScopes
  split <;> simp_all [AuthContext.hasScope]

end Layers

/-! ### The route table -/

/-- A route of `build_router` behind authentication: its method, its path, the scopes of its
`route_layer`, and the name of its handler. -/
structure SecuredRoute where
  method : Method
  path : String
  scopes : List String
  handler : String
  deriving DecidableEq, Repr

/-- The scopes of the three Platform API write routes. -/
def platformApiWriteScopes : List String :=
  ["apis:write", "route-configs:write", "listeners:write", "clusters:write"]

/-- The secured routes of `build_router`, in the order it merges them. -/
def securedRoutes : List SecuredRoute :=
  [⟨.get, "/api/v1/tokens", ["tokens:read"], "list_tokens_handler"⟩,
   ⟨.post, "/api/v1/tokens", ["tokens:write"], "create_token_handler"⟩,
   ⟨.get, "/api/v1/tokens/{id}", ["tokens:read"], "get_token_handler"⟩,
   ⟨.patch, "/api/v1/tokens/{id}", ["tokens:write"], "update_token_handler"⟩,
   ⟨.delete, "/api/v1/tokens/{id}", ["tokens:write"], "revoke_token_handler"⟩,
   ⟨.post, "/api/v1/tokens/{id}/rotate", ["tokens:write"], "rotate_token_handler"⟩,
   ⟨.get, "/api/v1/clusters", ["clusters:read"], "list_clusters_handler"⟩,
   ⟨.post, "/api/v1/clusters", ["clusters:write"], "create_cluster_handler"⟩,
   ⟨.get, "/api/v1/clusters/{name}", ["clusters:read"], "get_cluster_handler"⟩,
   ⟨.put, "/api/v1/clusters/{name}", ["clusters:write"], "update_cluster_handler"⟩,
   ⟨.delete, "/api/v1/clusters/{name}", ["clusters:write"], "delete_cluster_handler"⟩,
   ⟨.get, "/api/v1/route-configs", ["route-configs:read"], "list_routes_handler"⟩,
   ⟨.post, "/api/v1/route-configs", ["route-configs:write"], "create_route_handler"⟩,
   ⟨.get, "/api/v1/route-configs/{name}", ["route-configs:read"], "get_route_handler"⟩,
   ⟨.put, "/api/v1/route-configs/{name}", ["route-configs:write"], "update_route_handler"⟩,
   ⟨.delete, "/api/v1/route-configs/{name}", ["route-configs:write"], "delete_route_handler"⟩,
   ⟨.get, "/api/v1/listeners", ["listeners:read"], "list_listeners_handler"⟩,
   ⟨.post, "/api/v1/listeners", ["listeners:write"], "create_listener_handler"⟩,
   ⟨.get, "/api/v1/listeners/{name}", ["listeners:read"], "get_listener_handler"⟩,
   ⟨.put, "/api/v1/listeners/{name}", ["listeners:write"], "update_listener_handler"⟩,
   ⟨.delete, "/api/v1/listeners/{name}", ["listeners:write"], "delete_listener_handler"⟩,
   ⟨.get, "/api/v1/platform/apis", ["apis:read"], "list_api_definitions_handler"⟩,
   ⟨.post, "/api/v1/platform/apis", platformApiWriteScopes, "create_api_definition_handler"⟩,
   ⟨.get, "/api/v1/platform/apis/{id}", ["apis:read"], "get_api_definition_by_id_handler"⟩,
   ⟨.put, "/api/v1/platform/apis/{id}", platformApiWriteScopes, "update_api_definition_handler"⟩,
   ⟨.delete, "/api/v1/platform/apis/{id}", platformApiWriteScopes,
     "delete_api_definition_handler"⟩,
   ⟨.post, "/api/v1/platform/import/openapi", ["apis:write", "import:write"],
     "import_openapi_handler"⟩,
   ⟨.post, "/api/v1/gateways/openapi", ["gateways:import"], "redirect_gateway_import_handler"⟩,
   ⟨.get, "/api/v1/platform/services", ["services:read"], "list_services_handler"⟩,
   ⟨.post, "/api/v1/platform/services", ["services:write"], "create_service_handler"⟩,
   ⟨.get, "/api/v1/platform/services/{name}", ["services:read"], "get_service_handler"⟩,
   ⟨.put, "/api/v1/platform/services/{name}", ["services:write"], "update_service_handler"⟩,
   ⟨.delete, "/api/v1/platform/services/{name}", ["services:write"], "delete_service_handler"⟩]

/-- The route the router picks for a method and a path. -/
def findRoute (method : Method) (path : String) : Option SecuredRoute :=
  securedRoutes.find? fun route => route.method = method && route.path = path

/-- The scopes a method and a path require; none for a request no secured route serves. -/
def requiredScopes (method : Method) (path : String) : List String :=
  ((findRoute method path).map (·.scopes)).getD []

/-- Every route lists at least one scope, and each of its scopes is in the language of
`SCOPE_REGEX`. -/
theorem securedRoutes_scopes_wf :
    ∀ route ∈ securedRoutes, route.scopes ≠ [] ∧ ∀ scope ∈ route.scopes, ScopeSyntax scope := by
  decide

theorem securedRoutes_method_ne_options : ∀ route ∈ securedRoutes, route.method ≠ .options := by
  decide

/-- The route the router picks serves that method and path. -/
theorem findRoute_eq_some {method : Method} {path : String} {route : SecuredRoute}
    (h : findRoute method path = some route) :
    route ∈ securedRoutes ∧ route.method = method ∧ route.path = path := by
  have hmem := List.mem_of_find?_eq_some h
  have hmatch := List.find?_some h
  simp only [Bool.and_eq_true, decide_eq_true_eq] at hmatch
  exact ⟨hmem, hmatch⟩

/-! ### Authorisation -/

section Authorize

variable (authService : String → Except AuthError AuthContext) (describe : AuthError → String)

/-- Both layers in front of one route: `authenticate`, then `ensure_scopes` with the scopes of the
route and the context the first inserted.  The handler runs when the result is `ok`. -/
def authorizeRoute (route : SecuredRoute) (request : Request) :
    Except ApiError (Option AuthContext) := do
  match ← authenticate authService describe request with
  | some context =>
      ensureScopes route.scopes context
      pure (some context)
  | none => pure none

/-- **A handler runs exactly for a caller whose token authenticates and holds every scope of its
route**: for a request routed to a secured route, the layers let it through only with the context
the authentication service gave for its header. -/
theorem authorizeRoute_eq_ok_iff {route : SecuredRoute} (hroute : route ∈ securedRoutes)
    {request : Request} (hmethod : request.method = route.method)
    (result : Option AuthContext) :
    authorizeRoute authService describe route request = .ok result ↔
      ∃ context, result = some context ∧
        authService (request.authorization.getD "") = .ok context ∧
        ∀ scope ∈ route.scopes, scope ∈ context.scopes := by
  have hopt : request.method ≠ .options := hmethod ▸ securedRoutes_method_ne_options route hroute
  simp only [authorizeRoute, authenticate, hopt, if_false, except_bind_eq_ok,
    except_map_eq_ok_iff, mapError_eq_ok_iff]
  constructor
  · rintro ⟨_, ⟨context, hauth, rfl⟩, h⟩
    simp only [except_bind_unit_eq_ok, ensureScopes_eq_ok_iff, pure, Except.pure,
      Except.ok.injEq] at h
    exact ⟨context, h.2.symm, hauth, h.1⟩
  · rintro ⟨context, rfl, hauth, hscopes⟩
    refine ⟨some context, ⟨context, hauth, rfl⟩, ?_⟩
    simp only [except_bind_unit_eq_ok, ensureScopes_eq_ok_iff]
    exact ⟨hscopes, rfl⟩

end Authorize

/-! ### Facts of the table -/

/-- Every route but a `GET` lists a scope that does not end in `:read`. -/
theorem securedRoutes_write_scope :
    ∀ route ∈ securedRoutes, route.method ≠ .get →
      ∃ scope ∈ route.scopes, endsWithStr scope ":read" = false := by
  decide

/-- The Platform API writes: create, update and delete of a definition. -/
def platformApiWrites : List (Method × String) :=
  [(.post, "/api/v1/platform/apis"), (.put, "/api/v1/platform/apis/{id}"),
   (.delete, "/api/v1/platform/apis/{id}")]

/-- The collections of the Native resources a Platform API definition derives. -/
def nativeCollections : List String :=
  ["/api/v1/clusters", "/api/v1/route-configs", "/api/v1/listeners"]

/-- Each Platform API write requires the scopes of creating each Native resource it derives. -/
theorem requiredScopes_native_subset :
    ∀ write ∈ platformApiWrites, ∀ native ∈ nativeCollections,
      requiredScopes .post native ⊆ requiredScopes write.1 write.2 := by
  decide

end Flowplane
