import Flowplane.Platform.Handlers
import Flowplane.Auth.Serve

/-
**The Platform service API behind the router.**

`build_router` (`src/src/api/routes.rs`) serves the service handlers of
`src/src/api/platform_service_handlers.rs` under `/api/v1/platform/services`, behind
`authenticate` and, per route, the scope `services:read` or `services:write`.  The handlers are
steps of the cluster state of the Native cluster handlers they call (`Flowplane.handleService`),
and `Flowplane.Auth.Serve` puts the layers in front of them.

Main definitions:

* `Flowplane.ServiceRequest.method`, `Flowplane.ServiceRequest.path` — the route a request takes;
* `Flowplane.admitsService`, `Flowplane.runServedServices` — the layers let a call through, and a
  run of calls through the router.

Main results:

* `Flowplane.findRoute_serviceRequest` — every request of the service API is routed, a read behind
  `services:read` and a write behind `services:write`;
* `Flowplane.runServedServices_of_no_write_scope` — **only a caller holding `services:write`
  changes the clusters through the service API**.
-/

set_option autoImplicit false

namespace Flowplane

/-! ### The routes of the service API -/

namespace ServiceRequest

/-- The method of the route a request takes. -/
def method : ServiceRequest → Method
  | .create _ => .post
  | .list _ | .get _ => .get
  | .update _ _ => .put
  | .delete _ => .delete

/-- The path of the route a request takes, as `build_router` declares it. -/
def path : ServiceRequest → String
  | .create _ | .list _ => "/api/v1/platform/services"
  | .get _ | .update _ _ | .delete _ => "/api/v1/platform/services/{name}"

end ServiceRequest

/-- Every request of the service API is routed, a read behind `services:read` and a write behind
`services:write`. -/
theorem findRoute_serviceRequest (request : ServiceRequest) :
    ∃ route, findRoute request.method request.path = some route ∧
      route.scopes = [if request.method = .get then "services:read" else "services:write"] := by
  cases request <;> exact ⟨_, rfl, rfl⟩

theorem findRoute_isSome_serviceRequest (request : ServiceRequest) :
    (findRoute request.method request.path).isSome :=
  let ⟨_, hroute, _⟩ := findRoute_serviceRequest request
  Option.isSome_iff_exists.2 ⟨_, hroute⟩

/-! ### Calls through the router -/

section Served

variable {κ : Type}
variable (authService : String → Except AuthError AuthContext) (describeAuth : AuthError → String)
variable (describe : ValidationErrors → String)
variable (toHostPort : EndpointSpec → Option (String × UInt32))
variable (createClusterHandler : κ → CreateClusterBody → Except ApiError ClusterResponse × κ)
variable (listClustersHandler : κ → Option ℤ → Option ℤ → Except ApiError (List ClusterResponse))
variable (getClusterHandler : κ → String → Except ApiError ClusterResponse)
variable (updateClusterHandler :
  κ → String → CreateClusterBody → Except ApiError ClusterResponse × κ)
variable (deleteClusterHandler : κ → String → Except ApiError Unit × κ)

/-- The layers let a call of the service API through. -/
def admitsService (authorization : Option String) (request : ServiceRequest) : Bool :=
  admits authService describeAuth ServiceRequest.method ServiceRequest.path authorization request

/-- A run of calls of the service API through the router, each an `Authorization` header and a
request. -/
def runServedServices (st : κ) (calls : List (Option String × ServiceRequest)) : κ :=
  runServed authService describeAuth ServiceRequest.method ServiceRequest.path
    (handleService describe toHostPort createClusterHandler listClustersHandler getClusterHandler
      updateClusterHandler deleteClusterHandler) st calls

/-- **Only a caller holding `services:write` changes the clusters through the service API**: a
run of calls whose tokens never hold it leaves the cluster state as it was. -/
theorem runServedServices_of_no_write_scope (st : κ)
    {calls : List (Option String × ServiceRequest)}
    (hcalls : ∀ call ∈ calls, ∀ context, authService (call.1.getD "") = .ok context →
      "services:write" ∉ context.scopes) :
    runServedServices authService describeAuth describe toHostPort createClusterHandler
      listClustersHandler getClusterHandler updateClusterHandler deleteClusterHandler st calls =
      st := by
  refine runServed_of_no_scope findRoute_isSome_serviceRequest ?_ ?_ st hcalls
  · rintro st (_ | _ | _ | _ | _) hget <;> first | rfl | cases hget
  · intro request route hroute hne
    obtain ⟨route', hroute', hscopes⟩ := findRoute_serviceRequest request
    rw [hroute, Option.some.injEq] at hroute'
    rw [hroute', hscopes, if_neg hne]
    exact List.mem_singleton_self _

/-- A token that holds only `services:read` cannot delete a service, even where the delete would
change the state. -/
theorem runServedServices_of_no_write_scope_reader :
    (∀ call ∈ [(some "Bearer reader", ServiceRequest.delete "payments")], ∀ context,
        (fun _ => .ok ⟨"reader", ["services:read"]⟩ : String → Except AuthError AuthContext)
          (call.1.getD "") = .ok context → "services:write" ∉ context.scopes) ∧
      runServedServices (fun _ => .ok ⟨"reader", ["services:read"]⟩) (fun _ => "") (fun _ => "")
        (fun _ => none) (fun n _ => (.error (.notFound ""), n)) (fun _ _ _ => .ok [])
        (fun _ _ => .error (.notFound "")) (fun n _ _ => (.error (.notFound ""), n))
        (fun n _ => (.ok (), n + 1)) 0 [(some "Bearer reader", .delete "payments")] = 0 := by
  refine ⟨?hcalls, runServedServices_of_no_write_scope _ _ _ _ _ _ _ _ _ 0 ?hcalls⟩
  rintro _ - _ ⟨⟩
  simp

end Served

end Flowplane
