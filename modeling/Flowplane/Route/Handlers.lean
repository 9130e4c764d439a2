import Flowplane.Route.Validate
import Flowplane.Route.Store

/-
**The Native route API as a state machine.**

`create_route_handler`, `get_route_handler`, `list_routes_handler`, `update_route_handler` and
`delete_route_handler` (`src/src/api/route_handlers.rs`) run the validator, write through the
route repository, and then refresh the configurations the xDS server serves from the repository.
Here their state is the repository, if one is configured, and the served configurations; a
request is a step of that state, and the environment decides whether the refresh that ends a
write succeeds.  A list reads the state and is not a step.

Every write handler ends the same way: it stores what the repository returned, then refreshes,
and a failed refresh is reported without undoing the write (§4.G).  That ending is one definition,
`Flowplane.commitWrite`, and each handler is the computation of its write followed by it.

Three functions the handlers call are not among the sources and are parameters of the module:
`XdsRouteConfig::to_envoy_route_configuration`, the encoder check behind `validate_route_config`;
`is_default_gateway_route`; and `strip_gateway_tags`, which a read applies to a stored
configuration.  So is the page of the latest rows that the repository's `list` selects from a limit
and an offset.  The configuration is stored as the xDS value itself, so the JSON serialisation on
the way in and the parse on the way out are not modelled.

Main definitions:

* `Flowplane.summarizeRoute` — `summarize_route`, the two summary columns;
* `Flowplane.RouteApiState`, `Flowplane.commitWrite` — the state and the end of every write;
* `Flowplane.createRouteHandler`, `Flowplane.getRouteHandler`, `Flowplane.listRoutesHandler`,
  `Flowplane.updateRouteHandler`, `Flowplane.deleteRouteHandler` — the handlers;
* `Flowplane.RouteRequest`, `Flowplane.handleRoute`, `Flowplane.runRoutes`,
  `Flowplane.runRouteReplies` — one request, and a run of requests with its answers;
* `Flowplane.RouteWrite` — what a write can do to the repository.

Main results:

* `Flowplane.handleRoute_cases` — **a request is a read that changes nothing or a write that
  `commitWrite` ends**; every other fact about one request is drawn from it;
* `Flowplane.RouteWrite.wf`, `Flowplane.RouteWrite.mem_names` — a write keeps the invariant of the
  repository and every name in use but the one it deletes;
* `Flowplane.handleRoute_of_error` — a failed request changes nothing but, when only its refresh
  failed, the repository.

What runs of requests keep, and what reads see, is `Flowplane.Route.Runs`.
-/

set_option autoImplicit false

namespace Flowplane

variable {σ : Type}

/-! ### Summaries -/

/-- The closure of `summarize_route` that renders a path match. -/
def PathMatchDefinition.summary : PathMatchDefinition → String
  | .exact value | .prefix_ value => value
  | .regex value => "regex:" ++ value
  | .template t => "template:" ++ t

/-- The closure of `summarize_route` that names the target of an action: the first weighted
cluster, and the empty string for a weighted action without one. -/
def RouteActionDefinition.summary : RouteActionDefinition σ → String
  | .forward cluster _ _ _ => cluster
  | .weighted clusters _ => (clusters.head?.map (·.name)).getD ""
  | .redirect _ _ _ => "__redirect__"

/-- `summarize_route`: the path match and the target of the first route rule of the first virtual
host that has one, or `*` and `unknown`. -/
def summarizeRoute (d : RouteDefinition σ) : String × String :=
  (((d.virtualHosts.flatMap (·.routes)).map fun r => r.«match».path.summary).head?.getD "*",
   ((d.virtualHosts.flatMap (·.routes)).map fun r => r.action.summary).head?.getD "unknown")

/-- The summary of a configuration is read off the first route of its first virtual host, when
that host has one. -/
theorem summarizeRoute_of_first {d : RouteDefinition σ} {vh : VirtualHostDefinition σ}
    {vhs : List (VirtualHostDefinition σ)} {r : RouteRuleDefinition σ}
    {rs : List (RouteRuleDefinition σ)} (hvh : d.virtualHosts = vh :: vhs)
    (hr : vh.routes = r :: rs) :
    summarizeRoute d = (r.«match».path.summary, r.action.summary) := by
  simp [summarizeRoute, hvh, hr]

/-- A well-formed action names a target: a forward action a cluster that is not blank, a weighted
action a first cluster that is not, and a redirect the marker `__redirect__`. -/
theorem RouteActionDefinition.summary_ne_empty {a : RouteActionDefinition σ} (h : a.WellFormed) :
    a.summary ≠ "" := by
  cases a with
  | forward cluster _ _ _ => exact ne_empty_of_not_blank h.1
  | weighted clusters _ =>
      obtain ⟨c, cs, rfl⟩ := List.exists_cons_of_ne_nil h.1
      exact ne_empty_of_not_blank (h.2 c (List.mem_cons_self _ _)).1
  | redirect _ _ _ => simp [summary]

/-! ### The state and the end of a write -/

/-- What the route handlers read of `ApiState`: the route repository, if one is configured, and
the route configurations the xDS server serves. -/
structure RouteApiState (σ : Type) where
  routeRepository : Option (RouteRepository σ)
  servedRoutes : List (Xds.RouteConfig σ)

/-- `RouteResponse`. -/
structure RouteResponse (σ : Type) where
  name : String
  pathPrefix : String
  clusterTargets : String
  config : RouteDefinition σ

/-- `ListRoutesQuery`; the two numbers are `i32`. -/
structure ListRoutesQuery where
  limit : Option ℤ
  offset : Option ℤ

/-- `require_route_repository`. -/
def RouteApiState.requireRouteRepository (st : RouteApiState σ) :
    Except ApiError (RouteRepository σ) :=
  match st.routeRepository with
  | some repo => .ok repo
  | none => .error (.serviceUnavailable "Route repository not configured")

@[simp] theorem RouteApiState.requireRouteRepository_eq_ok_iff (st : RouteApiState σ)
    (repo : RouteRepository σ) :
    st.requireRouteRepository = .ok repo ↔ st.routeRepository = some repo := by
  simp only [requireRouteRepository]
  split <;> simp_all

/-- The configurations a refresh serves: the latest version of every stored one. -/
def RouteRepository.served (repo : RouteRepository σ) : List (Xds.RouteConfig σ) :=
  repo.latest.map (·.configuration)

/-- The state a committed write leaves: the repository the write returned, and the configurations
it serves if the refresh succeeded. -/
def RouteApiState.committed (st : RouteApiState σ) (refresh : Except Error Unit)
    (repo : RouteRepository σ) : RouteApiState σ :=
  match refresh with
  | .ok () => ⟨some repo, repo.served⟩
  | .error _ => { st with routeRepository := some repo }

/-- The end of every write handler: keep the repository the write returned, then run
`refresh_routes_from_repository`, whose outcome the environment gives.  A failed refresh is
reported and the write stays. -/
def commitWrite {α : Type} (st : RouteApiState σ) (refresh : Except Error Unit)
    (write : Except ApiError (α × RouteRepository σ)) : Except ApiError α × RouteApiState σ :=
  match write with
  | .error e => (.error e, st)
  | .ok (a, repo) =>
      ((match refresh with
        | .ok () => .ok a
        | .error e => .error (.ofError e)), st.committed refresh repo)

@[simp] theorem RouteApiState.committed_routeRepository (st : RouteApiState σ)
    (refresh : Except Error Unit) (repo : RouteRepository σ) :
    (st.committed refresh repo).routeRepository = some repo := by
  cases refresh <;> rfl

@[simp] theorem RouteApiState.committed_ok (st : RouteApiState σ) (repo : RouteRepository σ) :
    st.committed (.ok ()) repo = ⟨some repo, repo.served⟩ := rfl

/-- A failed refresh leaves the served configurations as they were. -/
@[simp] theorem RouteApiState.committed_error (st : RouteApiState σ) (e : Error)
    (repo : RouteRepository σ) :
    st.committed (.error e) repo = { st with routeRepository := some repo } := rfl

/-- A write that fails changes nothing. -/
@[simp] theorem commitWrite_error {α : Type} (st : RouteApiState σ)
    (refresh : Except Error Unit) (e : ApiError) :
    commitWrite (α := α) st refresh (.error e) = (.error e, st) := rfl

@[simp] theorem commitWrite_ok_snd {α : Type} (st : RouteApiState σ) (refresh : Except Error Unit)
    (a : α) (repo : RouteRepository σ) :
    (commitWrite st refresh (.ok (a, repo))).2 = st.committed refresh repo := rfl

/-- A write is answered with success exactly when it and the refresh after it succeeded. -/
theorem commitWrite_fst_eq_ok_iff {α : Type} (st : RouteApiState σ) (refresh : Except Error Unit)
    (write : Except ApiError (α × RouteRepository σ)) (a : α) :
    (commitWrite st refresh write).1 = .ok a ↔
      refresh = .ok () ∧ ∃ repo, write = .ok (a, repo) := by
  rcases write with e | ⟨a', repo⟩
  · simp
  · cases refresh <;> simp [commitWrite, eq_comm]

/-- A write answered with an error has left the served configurations alone, and everything else
too unless it was the refresh that failed. -/
theorem commitWrite_of_fst_eq_error {α : Type} {st : RouteApiState σ}
    {refresh : Except Error Unit} {write : Except ApiError (α × RouteRepository σ)} {e : ApiError}
    (h : (commitWrite st refresh write).1 = .error e) :
    (commitWrite st refresh write).2.servedRoutes = st.servedRoutes ∧
      (refresh = .ok () → (commitWrite st refresh write).2 = st) := by
  rcases write with e' | ⟨a, repo⟩
  · simp
  · cases refresh with
    | error e' => simp
    | ok u => cases h

/-- Answering with another reply type commutes with the end of a write. -/
theorem map_commitWrite {α β : Type} (f : α → β) (st : RouteApiState σ)
    (refresh : Except Error Unit) (write : Except ApiError (α × RouteRepository σ)) :
    Prod.map (Except.map f) id (commitWrite st refresh write) =
      commitWrite st refresh (write.map (Prod.map f id)) := by
  rcases write with e | ⟨a, repo⟩
  · rfl
  · cases refresh <;> rfl

/-! ### The handlers -/

section Handlers

variable (toEnvoyRouteConfiguration : Xds.RouteConfig σ → Except Error Unit)
variable (isDefaultGatewayRoute : String → Bool)
variable (stripGatewayTags : Xds.RouteConfig σ → Xds.RouteConfig σ)

/-- `validate_route_config`: the encoder check of an xDS configuration. -/
def validateRouteConfig (config : Xds.RouteConfig σ) : Except ApiError (Xds.RouteConfig σ) := do
  (toEnvoyRouteConfiguration config).mapError .ofError
  pure config

/-- The checks and the repository write of `create_route_handler`. -/
def createRouteWrite (st : RouteApiState σ) (payload : RouteDefinition σ) :
    Except ApiError (RouteResponse σ × RouteRepository σ) := do
  validateRoutePayload payload
  let repo ← st.requireRouteRepository
  let xdsConfig ← payload.toXdsConfig >>= validateRouteConfig toEnvoyRouteConfiguration
  let summary := summarizeRoute payload
  let created ← (repo.create ⟨payload.name, summary.1, summary.2, xdsConfig⟩).mapError .ofError
  pure (⟨created.1.name, created.1.pathPrefix, created.1.clusterName, payload⟩, created.2)

/-- `create_route_handler`. -/
def createRouteHandler (st : RouteApiState σ) (refresh : Except Error Unit)
    (payload : RouteDefinition σ) : Except ApiError (RouteResponse σ) × RouteApiState σ :=
  commitWrite st refresh (createRouteWrite toEnvoyRouteConfiguration st payload)

/-- `route_response_from_data`. -/
def routeResponseFromData (data : RouteRow σ) : RouteResponse σ :=
  ⟨data.name, data.pathPrefix, data.clusterName,
    RouteDefinition.fromXdsConfig (stripGatewayTags data.configuration)⟩

/-- `get_route_handler`, which changes nothing. -/
def getRouteHandler (st : RouteApiState σ) (name : String) : Except ApiError (RouteResponse σ) := do
  let repo ← st.requireRouteRepository
  let route ← (repo.getByName name).mapError .ofError
  pure (routeResponseFromData stripGatewayTags route)

variable (page : Option ℤ → Option ℤ → List (RouteRow σ) → List (RouteRow σ))

/-- `list_routes_handler`, which changes nothing, given the page selection of the repository's
`list`. -/
def listRoutesHandler (st : RouteApiState σ) (params : ListRoutesQuery) :
    Except ApiError (List (RouteResponse σ)) := do
  let repo ← st.requireRouteRepository
  let rows := repo.list page params.limit params.offset
  pure (rows.map (routeResponseFromData stripGatewayTags))

/-- The checks and the repository write of `update_route_handler`. -/
def updateRouteWrite (st : RouteApiState σ) (name : String) (payload : RouteDefinition σ) :
    Except ApiError (RouteResponse σ × RouteRepository σ) := do
  validateRoutePayload payload
  if payload.name ≠ name then
    throw (.badRequest ("Payload route name '" ++ payload.name ++ "' does not match path '" ++
      name ++ "'"))
  let repo ← st.requireRouteRepository
  let existing ← (repo.getByName payload.name).mapError .ofError
  let xdsConfig ← payload.toXdsConfig >>= validateRouteConfig toEnvoyRouteConfiguration
  let summary := summarizeRoute payload
  let updated ← (repo.update existing.id ⟨some summary.1, some summary.2, some xdsConfig⟩).mapError
    .ofError
  pure (⟨updated.1.name, summary.1, summary.2, payload⟩, updated.2)

/-- `update_route_handler`. -/
def updateRouteHandler (st : RouteApiState σ) (refresh : Except Error Unit) (name : String)
    (payload : RouteDefinition σ) : Except ApiError (RouteResponse σ) × RouteApiState σ :=
  commitWrite st refresh (updateRouteWrite toEnvoyRouteConfiguration st name payload)

/-- The checks and the repository write of `delete_route_handler`. -/
def deleteRouteWrite (st : RouteApiState σ) (name : String) :
    Except ApiError (Unit × RouteRepository σ) := do
  if isDefaultGatewayRoute name then
    throw (.conflict "The default gateway route configuration cannot be deleted")
  let repo ← st.requireRouteRepository
  let existing ← (repo.getByName name).mapError .ofError
  let repo' ← (repo.delete existing.id).mapError .ofError
  pure ((), repo')

/-- `delete_route_handler`. -/
def deleteRouteHandler (st : RouteApiState σ) (refresh : Except Error Unit) (name : String) :
    Except ApiError Unit × RouteApiState σ :=
  commitWrite st refresh (deleteRouteWrite isDefaultGatewayRoute st name)

/-- A request to the Native route API. -/
inductive RouteRequest (σ : Type) where
  | create (payload : RouteDefinition σ)
  | get (name : String)
  | update (name : String) (payload : RouteDefinition σ)
  | delete (name : String)

/-- The answer to a request. -/
inductive RouteReply (σ : Type) where
  | created (response : RouteResponse σ)
  | found (response : RouteResponse σ)
  | updated (response : RouteResponse σ)
  | deleted

/-- One request, with the outcome the environment gives the refresh of a write. -/
def handleRoute (st : RouteApiState σ) (refresh : Except Error Unit) :
    RouteRequest σ → Except ApiError (RouteReply σ) × RouteApiState σ
  | .create payload =>
      Prod.map (Except.map .created) id
        (createRouteHandler toEnvoyRouteConfiguration st refresh payload)
  | .get name => ((getRouteHandler stripGatewayTags st name).map .found, st)
  | .update name payload =>
      Prod.map (Except.map .updated) id
        (updateRouteHandler toEnvoyRouteConfiguration st refresh name payload)
  | .delete name =>
      Prod.map (Except.map fun _ => .deleted) id
        (deleteRouteHandler isDefaultGatewayRoute st refresh name)

/-- A run of requests, each with the outcome of its refresh. -/
def runRoutes (st : RouteApiState σ) (requests : List (RouteRequest σ × Except Error Unit)) :
    RouteApiState σ :=
  requests.foldl (fun st request =>
    (handleRoute toEnvoyRouteConfiguration isDefaultGatewayRoute stripGatewayTags st request.2
      request.1).2) st

/-- The answers to the requests of a run, in order. -/
def runRouteReplies (st : RouteApiState σ) :
    List (RouteRequest σ × Except Error Unit) → List (Except ApiError (RouteReply σ))
  | [] => []
  | request :: requests =>
      (handleRoute toEnvoyRouteConfiguration isDefaultGatewayRoute stripGatewayTags st request.2
        request.1).1 ::
      runRouteReplies (handleRoute toEnvoyRouteConfiguration isDefaultGatewayRoute
        stripGatewayTags st request.2 request.1).2 requests

end Handlers

/-! ### What a request can do -/

/-- What the write of a request can do to the repository: a create appends the first version of
the payload's name, an update writes a new version of a row, and a delete removes the rows of its
name, which is not the default gateway route configuration's. -/
inductive RouteWrite (isDefaultGatewayRoute : String → Bool) :
    RouteRequest σ → RouteRepository σ → RouteRepository σ → Prop
  | create {repo repo' : RouteRepository σ} (payload : RouteDefinition σ)
      (request : CreateRouteRequest σ) (row : RouteRow σ) :
      request.name = payload.name → repo.create request = .ok (row, repo') →
      RouteWrite isDefaultGatewayRoute (.create payload) repo repo'
  | update {repo repo' : RouteRepository σ} (name : String) (payload : RouteDefinition σ) (id : ℕ)
      (request : UpdateRouteRequest σ) (row : RouteRow σ) :
      repo.update id request = .ok (row, repo') →
      RouteWrite isDefaultGatewayRoute (.update name payload) repo repo'
  | delete {repo repo' : RouteRepository σ} (name : String) (existing : RouteRow σ) :
      isDefaultGatewayRoute name = false → repo.getByName name = .ok existing →
      repo.delete existing.id = .ok repo' →
      RouteWrite isDefaultGatewayRoute (.delete name) repo repo'

/-- The invariant of the state: a configured repository keeps `RouteRepository.WF`. -/
def RouteApiState.WF (st : RouteApiState σ) : Prop :=
  ∀ repo ∈ st.routeRepository, repo.WF

/-- The configurations served are the latest stored ones. -/
def RouteApiState.Synced (st : RouteApiState σ) : Prop :=
  ∀ repo ∈ st.routeRepository, st.servedRoutes = repo.served

/-- The names in use in the repository; none without a repository. -/
def RouteApiState.names (st : RouteApiState σ) : List String :=
  (st.routeRepository.map (·.names)).getD []

theorem RouteApiState.mem_names_iff {st : RouteApiState σ} {name : String} :
    name ∈ st.names ↔ ∃ repo, st.routeRepository = some repo ∧ name ∈ repo.names := by
  unfold names
  cases st.routeRepository <;> simp

section Writes

variable {isDefaultGatewayRoute : String → Bool} {request : RouteRequest σ}
  {repo repo' : RouteRepository σ}

theorem RouteWrite.wf (h : RouteWrite isDefaultGatewayRoute request repo repo') (hw : repo.WF) :
    repo'.WF := by
  cases h with
  | create _ _ _ _ h => exact hw.create h
  | update _ _ _ _ _ h => exact hw.update h
  | delete _ _ _ _ h => exact hw.delete h

/-- A write keeps every name in use but the one a delete removes: creates and updates only add
rows, and a delete removes the rows of its own name and no other. -/
theorem RouteWrite.mem_names {name : String}
    (h : RouteWrite isDefaultGatewayRoute request repo repo') (hw : repo.WF)
    (hkeep : request ≠ .delete name) (hname : name ∈ repo.names) :
    name ∈ repo'.names := by
  cases h with
  | create _ _ _ _ h =>
      obtain ⟨-, -, rfl⟩ := (RouteRepository.create_eq_ok_iff _ _ _ _).1 h
      exact RouteRepository.mem_names_of_subset (List.subset_append_left _ _) hname
  | update _ _ _ _ _ h =>
      refine RouteRepository.mem_names_of_subset (fun r hr => ?_) hname
      rw [RouteRepository.rows_of_update_eq_ok h]
      exact List.mem_append_left _ hr
  | delete _ existing _ hex hdel =>
      obtain ⟨hmem, rfl⟩ := RouteRepository.mem_rows_of_getByName hex
      exact hw.mem_names_delete hmem hdel (fun e => hkeep (congrArg _ e)) hname

/-- No write deletes a default gateway route configuration. -/
theorem RouteWrite.ne_delete_of_default {name : String}
    (h : RouteWrite isDefaultGatewayRoute request repo repo')
    (hdefault : isDefaultGatewayRoute name = true) : request ≠ .delete name := by
  rintro rfl
  cases h with
  | delete _ _ hother _ _ => rw [hdefault] at hother; cases hother

/-- A create puts its name in use. -/
theorem RouteWrite.mem_names_create {payload : RouteDefinition σ}
    (h : RouteWrite isDefaultGatewayRoute (.create payload) repo repo') :
    payload.name ∈ repo'.names := by
  cases h with
  | create _ _ _ hname hcreate =>
      obtain ⟨-, rfl, rfl⟩ := (RouteRepository.create_eq_ok_iff _ _ _ _).1 hcreate
      exact (RouteRepository.mem_names_iff _ _).2
        ⟨_, List.mem_append_right _ (List.mem_singleton_self _), hname⟩

end Writes

section Requests

variable {toEnvoyRouteConfiguration : Xds.RouteConfig σ → Except Error Unit}
variable {isDefaultGatewayRoute : String → Bool}
variable {stripGatewayTags : Xds.RouteConfig σ → Xds.RouteConfig σ}

/-- What a create that succeeds has checked and written. -/
theorem createRouteWrite_eq_ok {st : RouteApiState σ} {payload : RouteDefinition σ}
    {response : RouteResponse σ} {repo' : RouteRepository σ}
    (h : createRouteWrite toEnvoyRouteConfiguration st payload = .ok (response, repo')) :
    ∃ repo config row, validateRoutePayload payload = .ok () ∧ st.routeRepository = some repo ∧
      payload.toXdsConfig = .ok config ∧ toEnvoyRouteConfiguration config = .ok () ∧
      repo.create ⟨payload.name, (summarizeRoute payload).1, (summarizeRoute payload).2, config⟩ =
        .ok (row, repo') ∧
      response = ⟨row.name, row.pathPrefix, row.clusterName, payload⟩ := by
  simp only [createRouteWrite, validateRouteConfig, except_bind_unit_eq_ok, except_bind_eq_ok,
    RouteApiState.requireRouteRepository_eq_ok_iff, mapError_eq_ok_iff, pure, Except.pure,
    Except.ok.injEq, Prod.mk.injEq] at h
  obtain ⟨⟨⟩, hv, repo, hrepo, _, ⟨config, hc, ⟨⟩, henc, rfl⟩, ⟨row, _⟩, hcreate, hresp, rfl⟩ := h
  exact ⟨repo, config, row, hv, hrepo, hc, henc, hcreate, hresp.symm⟩

/-- What an update that succeeds has checked and written. -/
theorem updateRouteWrite_eq_ok {st : RouteApiState σ} {name : String} {payload : RouteDefinition σ}
    {response : RouteResponse σ} {repo' : RouteRepository σ}
    (h : updateRouteWrite toEnvoyRouteConfiguration st name payload = .ok (response, repo')) :
    ∃ repo existing config row, validateRoutePayload payload = .ok () ∧ payload.name = name ∧
      st.routeRepository = some repo ∧ repo.getByName name = .ok existing ∧
      payload.toXdsConfig = .ok config ∧ toEnvoyRouteConfiguration config = .ok () ∧
      repo.update existing.id
          ⟨some (summarizeRoute payload).1, some (summarizeRoute payload).2, some config⟩ =
        .ok (row, repo') ∧
      response = ⟨row.name, (summarizeRoute payload).1, (summarizeRoute payload).2, payload⟩ := by
  simp only [updateRouteWrite, except_bind_unit_eq_ok] at h
  obtain ⟨hv, h⟩ := h
  split at h
  · cases h
  rename_i hname
  simp only [validateRouteConfig, except_bind_unit_eq_ok, except_bind_eq_ok,
    RouteApiState.requireRouteRepository_eq_ok_iff, mapError_eq_ok_iff, pure, Except.pure,
    Except.ok.injEq, Prod.mk.injEq, true_and, not_not.1 hname] at h
  obtain ⟨⟨⟩, repo, hrepo, existing, hex, _, ⟨config, hc, ⟨⟩, henc, rfl⟩, ⟨row, _⟩, hupd, hresp,
    rfl⟩ := h
  exact ⟨repo, existing, config, row, hv, not_not.1 hname, hrepo, hex, hc, henc, hupd, hresp.symm⟩

/-- What a delete that succeeds has checked and removed. -/
theorem deleteRouteWrite_eq_ok {st : RouteApiState σ} {name : String} {repo' : RouteRepository σ}
    (h : deleteRouteWrite isDefaultGatewayRoute st name = .ok ((), repo')) :
    isDefaultGatewayRoute name = false ∧ ∃ repo existing, st.routeRepository = some repo ∧
      repo.getByName name = .ok existing ∧ repo.delete existing.id = .ok repo' := by
  unfold deleteRouteWrite at h
  split at h
  · cases h
  rename_i hdefault
  simp only [except_bind_eq_ok, RouteApiState.requireRouteRepository_eq_ok_iff,
    mapError_eq_ok_iff, pure, Except.pure, Except.ok.injEq, Prod.mk.injEq] at h
  obtain ⟨⟨⟩, -, repo, hrepo, existing, hex, _, hdel, -, rfl⟩ := h
  exact ⟨by simpa using hdefault, repo, existing, hrepo, hex, hdel⟩

/-- **One request is a read that changes nothing, or a write of the repository that
`commitWrite` ends.** -/
theorem handleRoute_cases (st : RouteApiState σ) (refresh : Except Error Unit)
    (request : RouteRequest σ) :
    (∃ name, request = .get name ∧ (handleRoute toEnvoyRouteConfiguration isDefaultGatewayRoute
      stripGatewayTags st refresh request).2 = st) ∨
    ∃ write : Except ApiError (RouteReply σ × RouteRepository σ),
      (∀ reply repo', write = .ok (reply, repo') →
        ∃ repo, st.routeRepository = some repo ∧
          RouteWrite isDefaultGatewayRoute request repo repo') ∧
      handleRoute toEnvoyRouteConfiguration isDefaultGatewayRoute stripGatewayTags st refresh
        request = commitWrite st refresh write := by
  cases request with
  | create payload =>
      refine .inr ⟨(createRouteWrite toEnvoyRouteConfiguration st payload).map
        (Prod.map .created id), fun reply repo' h => ?_, map_commitWrite _ _ _ _⟩
      obtain ⟨⟨response, _⟩, hw, hp⟩ := (except_map_eq_ok_iff _ _ _).1 h
      cases hp
      obtain ⟨repo, _, row, -, hrepo, -, -, hcreate, -⟩ := createRouteWrite_eq_ok hw
      exact ⟨repo, hrepo, .create payload _ row rfl hcreate⟩
  | get name => exact .inl ⟨name, rfl, rfl⟩
  | update name payload =>
      refine .inr ⟨(updateRouteWrite toEnvoyRouteConfiguration st name payload).map
        (Prod.map .updated id), fun reply repo' h => ?_, map_commitWrite _ _ _ _⟩
      obtain ⟨⟨response, _⟩, hw, hp⟩ := (except_map_eq_ok_iff _ _ _).1 h
      cases hp
      obtain ⟨repo, existing, _, row, -, -, hrepo, -, -, -, hupdate, -⟩ := updateRouteWrite_eq_ok hw
      exact ⟨repo, hrepo, .update name payload _ _ row hupdate⟩
  | delete name =>
      refine .inr ⟨(deleteRouteWrite isDefaultGatewayRoute st name).map
        (Prod.map (fun _ => .deleted) id), fun reply repo' h => ?_, map_commitWrite _ _ _ _⟩
      obtain ⟨⟨⟨⟩, _⟩, hw, hp⟩ := (except_map_eq_ok_iff _ _ _).1 h
      cases hp
      obtain ⟨hdefault, repo, existing, hrepo, hexisting, hdelete⟩ := deleteRouteWrite_eq_ok hw
      exact ⟨repo, hrepo, .delete name existing hdefault hexisting hdelete⟩

/-- What one request leaves: the state as it was, or the repository of a write, served if the
refresh succeeded. -/
theorem handleRoute_snd_cases (st : RouteApiState σ) (refresh : Except Error Unit)
    (request : RouteRequest σ) :
    (handleRoute toEnvoyRouteConfiguration isDefaultGatewayRoute stripGatewayTags st refresh
      request).2 = st ∨
    ∃ repo repo', st.routeRepository = some repo ∧
      RouteWrite isDefaultGatewayRoute request repo repo' ∧
      (handleRoute toEnvoyRouteConfiguration isDefaultGatewayRoute stripGatewayTags st refresh
        request).2 = st.committed refresh repo' := by
  rcases handleRoute_cases st refresh request with ⟨_, -, h⟩ | ⟨write, hwrite, h⟩
  · exact .inl h
  · rw [h]
    rcases write with e | ⟨reply, repo'⟩
    · exact .inl rfl
    · obtain ⟨repo, hrepo, hw⟩ := hwrite reply repo' rfl
      exact .inr ⟨repo, repo', hrepo, hw, rfl⟩

/-- **A failed request changes nothing that is served**, and nothing at all unless only the
refresh after its write failed. -/
theorem handleRoute_of_error {st : RouteApiState σ} {refresh : Except Error Unit}
    {request : RouteRequest σ} {e : ApiError}
    (h : (handleRoute toEnvoyRouteConfiguration isDefaultGatewayRoute stripGatewayTags st refresh
      request).1 = .error e) :
    (handleRoute toEnvoyRouteConfiguration isDefaultGatewayRoute stripGatewayTags st refresh
      request).2.servedRoutes = st.servedRoutes ∧
    (refresh = .ok () → (handleRoute toEnvoyRouteConfiguration isDefaultGatewayRoute
      stripGatewayTags st refresh request).2 = st) := by
  rcases handleRoute_cases st refresh request with ⟨_, -, hst⟩ | ⟨write, -, hw⟩
  · rw [hst]
    exact ⟨rfl, fun _ => rfl⟩
  · rw [hw] at h ⊢
    exact commitWrite_of_fst_eq_error h

end Requests

end Flowplane
