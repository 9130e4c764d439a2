import Flowplane.Platform.ApiDefinition
import Flowplane.Platform.Service

/-
**The handlers of the Platform API.**

Two groups of handlers serve the Platform surface.  Those of
`src/src/api/platform_api_definitions.rs` check an API definition and answer with the names of
the resources it would derive, but keep nothing: the create handler derives a cluster and a route
configuration and drops them, and the list, get, update and delete handlers answer as if no
definition had ever been created.  Those of `src/src/api/platform_service_handlers.rs` check a
service and hand it to the Native cluster handlers, translating the request on the way in and the
answer on the way out.

The Native cluster handlers are not among the sources; they are parameters of the module, each a
step of a cluster state `κ`.  So is the `Display` of `ValidationErrors`, which the error of a
failed check quotes, and the identifier and the time a create draws are arguments.

Main definitions:

* `Flowplane.createApiDefinitionHandler`, `Flowplane.listApiDefinitionsHandler`,
  `Flowplane.getApiDefinitionByIdHandler`, `Flowplane.updateApiDefinitionHandler`,
  `Flowplane.deleteApiDefinitionHandler` — the API-definition handlers;
* `Flowplane.createServiceHandler`, `Flowplane.listServicesHandler`,
  `Flowplane.getServiceHandler`, `Flowplane.updateServiceHandler`,
  `Flowplane.deleteServiceHandler` — the service handlers;
* `Flowplane.ServiceRequest`, `Flowplane.handleService` — a request to the service API, a step of
  the cluster state.

Main results:

* `Flowplane.createApiDefinitionHandler_eq_ok_iff` — a create answers exactly a definition that
  passes its check, with the names `{id}-cluster`, `{id}-routes` and `{id}-listener`;
* `Flowplane.createServiceHandler_of_error`, `Flowplane.updateServiceHandler_of_error`,
  `Flowplane.handleService_snd_of_invalid` — a service request that fails its checks never
  reaches the cluster handlers.
-/

set_option autoImplicit false

namespace Flowplane

/-! ### API definitions -/

/-- `ApiDefinitionResponse`. -/
structure ApiDefinitionResponse where
  id : String
  name : String
  version : String
  basePath : String
  upstream : UpstreamConfig
  routes : List ApiRoute
  policies : Option ApiPolicies
  routeConfigId : String
  listenerId : String
  clusterId : String
  metadata : Option Value
  createdAt : String
  updatedAt : String

/-- `ListApisQuery`; the two numbers are `i32`. -/
structure ListApisQuery where
  limit : Option ℤ
  offset : Option ℤ
  name : Option String
  version : Option String

/-- `x as usize` for an `i32` on a 64-bit target: a negative number is sign-extended, so it wraps
modulo `2 ^ 64` to a large one. -/
def usizeOfI32 (x : ℤ) : ℕ := (x % 18446744073709551616).toNat

section ApiDefinitions

variable (describe : ValidationErrors → String)

/-- The error of a failed check: `ApiError::BadRequest(format!("Validation failed: {}", e))`. -/
def validationFailed (errors : ValidationErrors) : ApiError :=
  .badRequest ("Validation failed: " ++ describe errors)

/-- `create_api_definition_handler`, given the identifier and the time it draws.  The cluster and
the route configuration it derives are dropped: nothing is written. -/
def createApiDefinitionHandler (api : ApiDefinition) (apiId now : String) :
    Except ApiError ApiDefinitionResponse := do
  api.validate.mapError (validationFailed describe)
  let clusterId := apiId ++ "-cluster"
  let routeConfigId := apiId ++ "-routes"
  let listenerId := apiId ++ "-listener"
  let _clusterConfig := apiToCluster api clusterId
  let _routeConfig : RouteDefinition Unit := apiToRouteConfig api routeConfigId
  pure
    { id := apiId, name := api.name, version := api.version, basePath := api.basePath,
      upstream := api.upstream, routes := api.routes, policies := api.policies,
      routeConfigId := routeConfigId, listenerId := listenerId, clusterId := clusterId,
      metadata := api.metadata, createdAt := now, updatedAt := now }

/-- `list_api_definitions_handler`: the filters and the page of an empty list. -/
def listApiDefinitionsHandler (params : ListApisQuery) :
    Except ApiError (List ApiDefinitionResponse) :=
  let results : List ApiDefinitionResponse := []
  let results := match params.name with
    | some nameFilter =>
        results.filter fun (api : ApiDefinitionResponse) => containsStr api.name nameFilter
    | none => results
  let results := match params.version with
    | some versionFilter =>
        results.filter fun (api : ApiDefinitionResponse) => api.version = versionFilter
    | none => results
  let offset := usizeOfI32 (params.offset.getD 0)
  let limit := usizeOfI32 (params.limit.getD 100)
  .ok ((results.drop offset).take limit)

/-- `get_api_definition_by_id_handler`. -/
def getApiDefinitionByIdHandler (id : String) : Except ApiError ApiDefinitionResponse :=
  .error (.notFound ("API definition with ID '" ++ id ++ "' not found"))

/-- `update_api_definition_handler`: the check, then not found. -/
def updateApiDefinitionHandler (id : String) (api : ApiDefinition) :
    Except ApiError ApiDefinitionResponse := do
  api.validate.mapError (validationFailed describe)
  throw (.notFound ("API definition with ID '" ++ id ++ "' not found"))

/-- `delete_api_definition_handler`. -/
def deleteApiDefinitionHandler (id : String) : Except ApiError Unit :=
  .error (.notFound ("API definition with ID '" ++ id ++ "' not found"))

/-- A create answers exactly a definition that passes its check, under the identifier it drew and
with the names of the three resources derived from it. -/
theorem createApiDefinitionHandler_eq_ok_iff (api : ApiDefinition) (apiId now : String)
    (response : ApiDefinitionResponse) :
    createApiDefinitionHandler describe api apiId now = .ok response ↔
      api.validate = .ok () ∧
      response =
        { id := apiId, name := api.name, version := api.version, basePath := api.basePath,
          upstream := api.upstream, routes := api.routes, policies := api.policies,
          routeConfigId := apiId ++ "-routes", listenerId := apiId ++ "-listener",
          clusterId := apiId ++ "-cluster", metadata := api.metadata, createdAt := now,
          updatedAt := now } := by
  simp only [createApiDefinitionHandler, except_bind_unit_eq_ok, mapError_eq_ok_iff, pure,
    Except.pure, Except.ok.injEq]
  exact and_congr_right fun _ => eq_comm

end ApiDefinitions

/-! ### Services -/

/-- `ListServicesQuery`. -/
structure ListServicesQuery where
  limit : Option ℤ
  offset : Option ℤ

/-- A request to the Platform service API. -/
inductive ServiceRequest where
  | create (service : ServiceDefinition)
  | list (params : ListServicesQuery)
  | get (name : String)
  | update (name : String) (service : ServiceDefinition)
  | delete (name : String)

/-- The answer to a request. -/
inductive ServiceReply where
  | created (response : ServiceResponse)
  | listed (responses : List ServiceResponse)
  | found (response : ServiceResponse)
  | updated (response : ServiceResponse)
  | deleted

section Services

variable {κ : Type} (describe : ValidationErrors → String)
variable (toHostPort : EndpointSpec → Option (String × UInt32))
variable (createClusterHandler : κ → CreateClusterBody → Except ApiError ClusterResponse × κ)
variable (listClustersHandler : κ → Option ℤ → Option ℤ → Except ApiError (List ClusterResponse))
variable (getClusterHandler : κ → String → Except ApiError ClusterResponse)
variable (updateClusterHandler :
  κ → String → CreateClusterBody → Except ApiError ClusterResponse × κ)
variable (deleteClusterHandler : κ → String → Except ApiError Unit × κ)

/-- `create_service_handler`: the check, then the Native create of the cluster the service
lowers to, whose answer is read back with the service. -/
def createServiceHandler (st : κ) (service : ServiceDefinition) :
    Except ApiError ServiceResponse × κ :=
  match service.validate with
  | .error e => (.error (validationFailed describe e), st)
  | .ok () =>
      let (created, st') := createClusterHandler st (serviceToCluster service)
      (created.map fun cluster => clusterToServiceResponse cluster service, st')

/-- `list_services_handler`: the Native list, each cluster read as a service. -/
def listServicesHandler (st : κ) (params : ListServicesQuery) :
    Except ApiError (List ServiceResponse) :=
  (listClustersHandler st params.limit params.offset).map
    (List.map (clusterResponseToService toHostPort))

/-- `get_service_handler`. -/
def getServiceHandler (st : κ) (name : String) : Except ApiError ServiceResponse :=
  (getClusterHandler st name).map (clusterResponseToService toHostPort)

/-- `update_service_handler`: the check and the name, then the Native update. -/
def updateServiceHandler (st : κ) (name : String) (service : ServiceDefinition) :
    Except ApiError ServiceResponse × κ :=
  match service.validate with
  | .error e => (.error (validationFailed describe e), st)
  | .ok () =>
      if service.name ≠ name then
        (.error (.badRequest ("Service name '" ++ service.name ++ "' does not match path '" ++
          name ++ "'")), st)
      else
        let (updated, st') := updateClusterHandler st name (serviceToCluster service)
        (updated.map fun cluster => clusterToServiceResponse cluster service, st')

/-- `delete_service_handler`: the Native delete. -/
def deleteServiceHandler (st : κ) (name : String) : Except ApiError Unit × κ :=
  deleteClusterHandler st name

/-- One request to the service API, a step of the cluster state. -/
def handleService (st : κ) : ServiceRequest → Except ApiError ServiceReply × κ
  | .create service =>
      Prod.map (Except.map .created) id
        (createServiceHandler describe createClusterHandler st service)
  | .list params =>
      ((listServicesHandler toHostPort listClustersHandler st params).map .listed, st)
  | .get name => ((getServiceHandler toHostPort getClusterHandler st name).map .found, st)
  | .update name service =>
      Prod.map (Except.map .updated) id
        (updateServiceHandler describe updateClusterHandler st name service)
  | .delete name =>
      Prod.map (Except.map fun _ => .deleted) id (deleteServiceHandler deleteClusterHandler st name)

/-- A service that fails its check is refused before any cluster is created. -/
theorem createServiceHandler_of_error {st : κ} {service : ServiceDefinition}
    {errors : ValidationErrors} (h : service.validate = .error errors) :
    createServiceHandler describe createClusterHandler st service =
      (.error (validationFailed describe errors), st) := by
  simp [createServiceHandler, h]

/-- An update that fails its check or names another service is refused before any cluster is
updated. -/
theorem updateServiceHandler_of_error {st : κ} {name : String} {service : ServiceDefinition}
    (h : service.validate ≠ .ok () ∨ service.name ≠ name) :
    ∃ e, updateServiceHandler describe updateClusterHandler st name service = (.error e, st) := by
  unfold updateServiceHandler
  split
  · exact ⟨_, rfl⟩
  · rename_i hv
    rw [if_pos (h.resolve_left (not_not.2 hv))]
    exact ⟨_, rfl⟩

/-- **A service that fails its check never reaches the cluster handlers**: a create or an update
of it leaves the cluster state as it was. -/
theorem handleService_snd_of_invalid {st : κ} {service : ServiceDefinition}
    (h : service.validate ≠ .ok ()) {request : ServiceRequest}
    (hrequest : request = .create service ∨ ∃ name, request = .update name service) :
    (handleService describe toHostPort createClusterHandler listClustersHandler getClusterHandler
      updateClusterHandler deleteClusterHandler st request).2 = st := by
  rcases hrequest with rfl | ⟨name, rfl⟩
  · obtain ⟨errors, herrors⟩ : ∃ errors, service.validate = .error errors := by
      cases hv : service.validate with
      | error errors => exact ⟨errors, rfl⟩
      | ok u => exact absurd hv h
    simp [handleService, createServiceHandler_of_error describe createClusterHandler herrors]
  · obtain ⟨e, he⟩ :=
      @updateServiceHandler_of_error κ describe updateClusterHandler st name service (.inl h)
    simp [handleService, he]

end Services

end Flowplane
