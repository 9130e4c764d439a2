import Flowplane.Route.Handlers

/-
**Runs of the Native route API, and what its reads see.**

`Flowplane.Route.Handlers` models the route handlers as steps of a state and says, in
`Flowplane.handleRoute_cases`, what one step can do.  This module draws from it what holds over
every run of requests: the invariant of the repository, the served configurations, the names in
use, and the answers to reads and lists after writes.  The examples are built on the handlers'
own `sample_route_definition` and on a repository holding the default gateway route.

Main results:

* `Flowplane.RouteApiState.WF.runRoutes` — **every run keeps the invariant of the repository**,
  so the versions of every name are `1, …, k` in every reachable state;
* `Flowplane.RouteApiState.Synced.runRoutes` — a run whose refreshes succeed keeps serving the
  latest stored configurations;
* `Flowplane.routeRepository_isSome_runRoutes` — a run keeps a repository configured;
* `Flowplane.mem_names_runRoutes` — the default gateway route configuration, once stored, is never
  deleted;
* `Flowplane.handleRoute_create_of_mem_names` — a create under a name in use fails and changes
  nothing;
* `Flowplane.countP_createsName_runRouteReplies_le_one` — **names are unique over a run**: without
  a delete of a name, at most one create of it succeeds, and none if it was in use at the start;
* `Flowplane.getRouteHandler_after_create`, `Flowplane.getRouteHandler_after_update` — a read
  after a write returns what the write answered;
* `Flowplane.summarizeRoute_of_validateRoutePayload` — the summary columns a write stores are read
  off the first route of the configuration, rendered constructor by constructor;
* `Flowplane.getRouteHandler_of_mem_listRoutesHandler`, `Flowplane.nodup_listRoutesHandler` — a
  list agrees with a get and shows each configuration once.
-/

set_option autoImplicit false

namespace Flowplane

variable {σ : Type}

/-! ### Creates of one name in a run -/

/-- The request is a create of a configuration of this name. -/
def RouteRequest.createsName (name : String) : RouteRequest σ → Bool
  | .create payload => payload.name == name
  | _ => false

/-- How many creates of a name a run answered with success, its requests paired with its
answers. -/
def okCreates (name : String) (requests : List (RouteRequest σ × Except Error Unit))
    (replies : List (Except ApiError (RouteReply σ))) : ℕ :=
  (requests.zip replies).countP fun p => p.1.1.createsName name && p.2.toBool

theorem createsName_and_toBool_eq_true_iff {name : String} {request : RouteRequest σ}
    {reply : Except ApiError (RouteReply σ)} :
    (request.createsName name && reply.toBool) = true ↔
      ∃ payload a, request = .create payload ∧ payload.name = name ∧ reply = .ok a := by
  cases request <;> cases reply <;> simp [RouteRequest.createsName, Except.toBool]

@[simp]
theorem okCreates_cons (name : String) (request : RouteRequest σ × Except Error Unit)
    (requests : List (RouteRequest σ × Except Error Unit)) (reply : Except ApiError (RouteReply σ))
    (replies : List (Except ApiError (RouteReply σ))) :
    okCreates name (request :: requests) (reply :: replies) =
      okCreates name requests replies +
        if (request.1.createsName name && reply.toBool) = true then 1 else 0 :=
  List.countP_cons _ _ _


/-- `sample_route_definition`, the route configuration of the handlers' tests. -/
def sampleRouteDefinition : RouteDefinition Unit :=
  ⟨"primary-routes", [⟨"default", ["*"], [⟨some "api", ⟨.prefix_ "/api", [], []⟩,
    .forward "api-cluster" (some 5) none none, []⟩], []⟩]⟩

/-- A repository holding a first version of `primary-routes`, with an empty configuration. -/
def primaryRoutesRepository : RouteRepository Unit :=
  ⟨[⟨0, "primary-routes", "/", "unknown", ⟨"primary-routes", []⟩, 1⟩], 1⟩

theorem primaryRoutesRepository_wf : primaryRoutesRepository.WF :=
  @RouteRepository.WF.create Unit .empty primaryRoutesRepository
    ⟨"primary-routes", "/", "unknown", ⟨"primary-routes", []⟩⟩ _ RouteRepository.wf_empty rfl

/-- A state whose repository keeps its invariant keeps the invariant of the state. -/
theorem RouteApiState.wf_of_routeRepository {st : RouteApiState σ} {repo : RouteRepository σ}
    (hrepo : st.routeRepository = some repo) (hw : repo.WF) : st.WF := by
  intro r hr
  rw [hrepo, Option.mem_def, Option.some.injEq] at hr
  exact hr ▸ hw

section Runs

variable {toEnvoyRouteConfiguration : Xds.RouteConfig σ → Except Error Unit}
variable {isDefaultGatewayRoute : String → Bool}
variable {stripGatewayTags : Xds.RouteConfig σ → Xds.RouteConfig σ}

/-! ### Runs -/

theorem RouteApiState.WF.handleRoute {st : RouteApiState σ} (hw : st.WF)
    (refresh : Except Error Unit) (request : RouteRequest σ) :
    (handleRoute toEnvoyRouteConfiguration isDefaultGatewayRoute stripGatewayTags st refresh
      request).2.WF := by
  rcases handleRoute_snd_cases st refresh request with h | ⟨repo, repo', hrepo, hstep, h⟩
  · rw [h]
    exact hw
  · rw [h]
    intro r hr
    rw [Option.mem_def, RouteApiState.committed_routeRepository, Option.some.injEq] at hr
    subst hr
    exact hstep.wf (hw repo hrepo)

/-- A request whose write is refreshed keeps the served configurations the latest stored ones. -/
theorem RouteApiState.Synced.handleRoute {st : RouteApiState σ} (hs : st.Synced)
    (request : RouteRequest σ) :
    (handleRoute toEnvoyRouteConfiguration isDefaultGatewayRoute stripGatewayTags st (.ok ())
      request).2.Synced := by
  rcases handleRoute_snd_cases st (.ok ()) request with h | ⟨-, repo', -, -, h⟩
  · rw [h]
    exact hs
  · rw [h, RouteApiState.committed_ok]
    rintro r ⟨⟩
    rfl

/-- A property every request keeps holds after every run. -/
theorem runRoutes_induction (P : RouteApiState σ → Prop)
    {requests : List (RouteRequest σ × Except Error Unit)}
    (hstep : ∀ st, ∀ x ∈ requests, P st →
      P (handleRoute toEnvoyRouteConfiguration isDefaultGatewayRoute stripGatewayTags st x.2
        x.1).2)
    {st : RouteApiState σ} (h : P st) :
    P (runRoutes toEnvoyRouteConfiguration isDefaultGatewayRoute stripGatewayTags st requests) := by
  induction requests generalizing st with
  | nil => exact h
  | cons x xs ih =>
      exact ih (fun st y hy => hstep st y (List.mem_cons_of_mem x hy))
        (hstep st x (List.mem_cons_self x xs) h)

/-- **Every run keeps the invariant of the repository**, so in every reachable state ids and names
go one to one and the versions of every name are `1, …, k`. -/
theorem RouteApiState.WF.runRoutes {st : RouteApiState σ} (hw : st.WF)
    (requests : List (RouteRequest σ × Except Error Unit)) :
    (runRoutes toEnvoyRouteConfiguration isDefaultGatewayRoute stripGatewayTags st
      requests).WF :=
  runRoutes_induction _ (fun _ x _ hst => hst.handleRoute x.2 x.1) hw

/-- A run whose refreshes all succeed keeps serving the latest stored configurations. -/
theorem RouteApiState.Synced.runRoutes {st : RouteApiState σ} (hs : st.Synced)
    {requests : List (RouteRequest σ × Except Error Unit)}
    (hrefresh : ∀ x ∈ requests, x.2 = .ok ()) :
    (runRoutes toEnvoyRouteConfiguration isDefaultGatewayRoute stripGatewayTags st
      requests).Synced :=
  runRoutes_induction _ (fun _ x hx hst => hrefresh x hx ▸ hst.handleRoute x.1) hs

/-- A run keeps a route repository configured. -/
theorem routeRepository_isSome_runRoutes {st : RouteApiState σ}
    (h : st.routeRepository.isSome) (requests : List (RouteRequest σ × Except Error Unit)) :
    (runRoutes toEnvoyRouteConfiguration isDefaultGatewayRoute stripGatewayTags st
      requests).routeRepository.isSome := by
  refine runRoutes_induction (fun st => st.routeRepository.isSome) (fun st x _ hst => ?_) h
  rcases handleRoute_snd_cases st x.2 x.1 with h' | ⟨-, repo', -, -, h'⟩
  · rwa [h']
  · rw [h', RouteApiState.committed_routeRepository]
    rfl

/-- A run from a repository that keeps its invariant leaves a repository that keeps it. -/
theorem exists_routeRepository_runRoutes {st : RouteApiState σ} {repo : RouteRepository σ}
    (hrepo : st.routeRepository = some repo) (hw : repo.WF)
    (requests : List (RouteRequest σ × Except Error Unit)) :
    ∃ repo', (runRoutes toEnvoyRouteConfiguration isDefaultGatewayRoute stripGatewayTags st
      requests).routeRepository = some repo' ∧ repo'.WF := by
  obtain ⟨repo', hrepo'⟩ := Option.isSome_iff_exists.1 (routeRepository_isSome_runRoutes
    (by rw [hrepo]; rfl) requests : (runRoutes toEnvoyRouteConfiguration isDefaultGatewayRoute
      stripGatewayTags st requests).routeRepository.isSome)
  exact ⟨repo', hrepo',
    (RouteApiState.wf_of_routeRepository hrepo hw).runRoutes requests repo' hrepo'⟩

/-- **The default gateway route configuration, once stored, is never deleted**: every run keeps its
name in use. -/
theorem mem_names_runRoutes {st : RouteApiState σ} {repo : RouteRepository σ} {name : String}
    (hw : st.WF) (hrepo : st.routeRepository = some repo)
    (hdefault : isDefaultGatewayRoute name = true) (hname : name ∈ repo.names)
    (requests : List (RouteRequest σ × Except Error Unit)) :
    ∃ repo', (runRoutes toEnvoyRouteConfiguration isDefaultGatewayRoute stripGatewayTags st
      requests).routeRepository = some repo' ∧ name ∈ repo'.names := by
  refine (runRoutes_induction
    (fun st => st.WF ∧ ∃ repo', st.routeRepository = some repo' ∧ name ∈ repo'.names) ?_
    ⟨hw, repo, hrepo, hname⟩).2
  rintro st x - ⟨hw, repo, hrepo, hname⟩
  refine ⟨hw.handleRoute x.2 x.1, ?_⟩
  rcases handleRoute_snd_cases st x.2 x.1 with h | ⟨repo₀, repo', hrepo₀, hstep, h⟩
  · rw [h]
    exact ⟨repo, hrepo, hname⟩
  · rw [hrepo, Option.some.injEq] at hrepo₀
    subst hrepo₀
    rw [h]
    exact ⟨repo', RouteApiState.committed_routeRepository _ _ _,
      hstep.mem_names (hw repo hrepo) (hstep.ne_delete_of_default hdefault) hname⟩

theorem mem_names_runRoutes_primaryRoutes :
    (⟨some primaryRoutesRepository, []⟩ : RouteApiState Unit).WF ∧
      (⟨some primaryRoutesRepository, []⟩ : RouteApiState Unit).routeRepository =
        some primaryRoutesRepository ∧
      (fun name => name == "primary-routes") "primary-routes" = true ∧
      "primary-routes" ∈ primaryRoutesRepository.names ∧
      ∃ repo', (runRoutes (fun _ => .ok ()) (fun name => name == "primary-routes") id
          ⟨some primaryRoutesRepository, []⟩ [(.delete "primary-routes", .ok ())]).routeRepository =
          some repo' ∧ "primary-routes" ∈ repo'.names :=
  ⟨RouteApiState.wf_of_routeRepository rfl primaryRoutesRepository_wf, rfl, rfl, by decide,
    mem_names_runRoutes (RouteApiState.wf_of_routeRepository rfl primaryRoutesRepository_wf) rfl rfl
      (by decide) _⟩

/-- A request keeps every name in use but the one it deletes. -/
theorem mem_names_handleRoute {st : RouteApiState σ} (hw : st.WF) {name : String}
    (hname : name ∈ st.names) (refresh : Except Error Unit) {request : RouteRequest σ}
    (hkeep : request ≠ .delete name) :
    name ∈ (handleRoute toEnvoyRouteConfiguration isDefaultGatewayRoute stripGatewayTags st
      refresh request).2.names := by
  rcases handleRoute_snd_cases st refresh request with h | ⟨repo, repo', hrepo, hstep, h⟩
  · rwa [h]
  · obtain ⟨repo₀, hrepo₀, hmem⟩ := RouteApiState.mem_names_iff.1 hname
    rw [hrepo, Option.some.injEq] at hrepo₀
    subst hrepo₀
    rw [h, RouteApiState.mem_names_iff]
    exact ⟨repo', RouteApiState.committed_routeRepository _ _ _,
      hstep.mem_names (hw repo hrepo) hkeep hmem⟩

/-- A create answered with success has put its name in use. -/
theorem mem_names_of_create_ok {st : RouteApiState σ} {refresh : Except Error Unit}
    {payload : RouteDefinition σ} {reply : RouteReply σ}
    (h : (handleRoute toEnvoyRouteConfiguration isDefaultGatewayRoute stripGatewayTags st refresh
      (.create payload)).1 = .ok reply) :
    payload.name ∈ (handleRoute toEnvoyRouteConfiguration isDefaultGatewayRoute stripGatewayTags
      st refresh (.create payload)).2.names := by
  rcases handleRoute_cases st refresh (.create payload) with ⟨_, hget, -⟩ | ⟨write, hwrite, hstep⟩
  · cases hget
  rw [hstep] at h ⊢
  obtain ⟨-, repo', rfl⟩ := (commitWrite_fst_eq_ok_iff _ _ _ _).1 h
  obtain ⟨_, -, hcreate⟩ := hwrite _ _ rfl
  rw [commitWrite_ok_snd, RouteApiState.mem_names_iff]
  exact ⟨repo', RouteApiState.committed_routeRepository _ _ _, hcreate.mem_names_create⟩

/-! ### Reads and writes of one name -/

/-- **Names are unique**: a create under a name in use changes nothing and fails, with a conflict
once its other checks have passed. -/
theorem handleRoute_create_of_mem_names {st : RouteApiState σ} {repo : RouteRepository σ}
    {payload : RouteDefinition σ} (hrepo : st.routeRepository = some repo)
    (hname : payload.name ∈ repo.names) (refresh : Except Error Unit) :
    (handleRoute toEnvoyRouteConfiguration isDefaultGatewayRoute stripGatewayTags st refresh
      (.create payload)).2 = st ∧
    ∃ e, (handleRoute toEnvoyRouteConfiguration isDefaultGatewayRoute stripGatewayTags st refresh
      (.create payload)).1 = .error e ∧
      (validateRoutePayload payload = .ok () → ∀ config, payload.toXdsConfig = .ok config →
        toEnvoyRouteConfiguration config = .ok () → e = .ofError (.conflict payload.name)) := by
  rcases hw : createRouteWrite toEnvoyRouteConfiguration st payload with e | ⟨response, repo'⟩
  · refine ⟨by simp [handleRoute, createRouteHandler, hw],
      e, by simp [handleRoute, createRouteHandler, hw], fun hv config hc henc => ?_⟩
    have hconflict := (RouteRepository.create_eq_error_iff repo
      ⟨payload.name, (summarizeRoute payload).1, (summarizeRoute payload).2, config⟩
      (.conflict payload.name)).2 ⟨hname, rfl⟩
    simp [createRouteWrite, validateRouteConfig, hv, hrepo, hc, henc, hconflict,
      RouteApiState.requireRouteRepository, bind, Except.bind, Except.mapError, pure,
      Except.pure] at hw
    exact hw.symm
  · obtain ⟨repo₀, config, row, -, hrepo₀, -, -, hcreate, -⟩ := createRouteWrite_eq_ok hw
    rw [hrepo, Option.some.injEq] at hrepo₀
    subst hrepo₀
    exact absurd hname ((RouteRepository.create_eq_ok_iff _ _ _ _).1 hcreate).1

/-- From a state where a name is in use, no request is a create of it answered with success. -/
theorem createsName_handleRoute_of_mem {st : RouteApiState σ} {name : String}
    (hname : name ∈ st.names) (refresh : Except Error Unit) (request : RouteRequest σ) :
    (request.createsName name &&
      (handleRoute toEnvoyRouteConfiguration isDefaultGatewayRoute stripGatewayTags st refresh
        request).1.toBool) = false := by
  cases request with
  | create payload =>
      by_cases hn : payload.name = name
      · obtain ⟨repo, hrepo, hmem⟩ := RouteApiState.mem_names_iff.1 hname
        obtain ⟨-, e, he, -⟩ := @handleRoute_create_of_mem_names _ toEnvoyRouteConfiguration
          isDefaultGatewayRoute stripGatewayTags _ _ _ hrepo (hn ▸ hmem) refresh
        simp [he, Except.toBool]
      · simp [RouteRequest.createsName, hn]
  | _ => simp [RouteRequest.createsName]

/-- A run without a delete of a name in use keeps it in use, and answers no create of it with
success. -/
theorem countP_createsName_runRouteReplies_of_mem {st : RouteApiState σ} (hw : st.WF)
    {name : String} (hname : name ∈ st.names)
    {requests : List (RouteRequest σ × Except Error Unit)}
    (hkeep : ∀ x ∈ requests, x.1 ≠ .delete name) :
    okCreates name requests
      (runRouteReplies toEnvoyRouteConfiguration isDefaultGatewayRoute stripGatewayTags st
        requests) = 0 := by
  induction requests generalizing st with
  | nil => rfl
  | cons x xs ih =>
      rw [runRouteReplies, okCreates_cons, createsName_handleRoute_of_mem hname,
        if_neg Bool.false_ne_true, Nat.add_zero]
      exact ih (hw.handleRoute x.2 x.1)
        (mem_names_handleRoute hw hname x.2 (hkeep x (List.mem_cons_self x xs)))
        (fun y hy => hkeep y (List.mem_cons_of_mem x hy))

/-- **Names are unique over every run**: in a run without a delete of a name, at most one create
of that name is answered with success. -/
theorem countP_createsName_runRouteReplies_le_one {st : RouteApiState σ} (hw : st.WF)
    (name : String) {requests : List (RouteRequest σ × Except Error Unit)}
    (hkeep : ∀ x ∈ requests, x.1 ≠ .delete name) :
    okCreates name requests
      (runRouteReplies toEnvoyRouteConfiguration isDefaultGatewayRoute stripGatewayTags st
        requests) ≤ 1 := by
  induction requests generalizing st with
  | nil => exact Nat.zero_le _
  | cons x xs ih =>
      have hkeep' : ∀ y ∈ xs, y.1 ≠ .delete name := fun y hy =>
        hkeep y (List.mem_cons_of_mem x hy)
      rcases x with ⟨request, refresh⟩
      simp only [runRouteReplies, okCreates_cons]
      split
      · rename_i hhead
        obtain ⟨payload, reply, rfl, rfl, hreply⟩ := createsName_and_toBool_eq_true_iff.1 hhead
        rw [countP_createsName_runRouteReplies_of_mem (hw.handleRoute _ _)
          (mem_names_of_create_ok hreply) hkeep']
      · exact ih (hw.handleRoute refresh request) hkeep'

theorem countP_createsName_runRouteReplies_le_one_twice :
    (⟨some .empty, []⟩ : RouteApiState Unit).WF ∧
      (∀ x ∈ [(RouteRequest.create sampleRouteDefinition, (.ok () : Except Error Unit)),
        (.create sampleRouteDefinition, .ok ())], x.1 ≠ .delete "primary-routes") ∧
      okCreates "primary-routes"
        [(.create sampleRouteDefinition, .ok ()), (.create sampleRouteDefinition, .ok ())]
        (runRouteReplies (fun _ => .ok ()) (fun _ => false) id ⟨some .empty, []⟩
          [(.create sampleRouteDefinition, .ok ()), (.create sampleRouteDefinition, .ok ())]) ≤ 1 :=
  ⟨RouteApiState.wf_of_routeRepository rfl RouteRepository.wf_empty, by simp,
    countP_createsName_runRouteReplies_le_one
      (RouteApiState.wf_of_routeRepository rfl RouteRepository.wf_empty) _ (by simp)⟩

/-- **Read your writes**: once a create has passed its checks and been written, a read of its
name returns what the create answered, whether or not the refresh after it succeeded, as long as
the stored configuration has no gateway tags to strip. -/
theorem getRouteHandler_after_create {st : RouteApiState σ} {payload : RouteDefinition σ}
    {response : RouteResponse σ} {repo' : RouteRepository σ}
    (hstrip : ∀ config, payload.toXdsConfig = .ok config → stripGatewayTags config = config)
    (h : createRouteWrite toEnvoyRouteConfiguration st payload = .ok (response, repo'))
    (refresh : Except Error Unit) :
    getRouteHandler stripGatewayTags
      (createRouteHandler toEnvoyRouteConfiguration st refresh payload).2 payload.name =
        .ok response := by
  obtain ⟨repo, config, row, -, -, hc, -, hcreate, rfl⟩ := createRouteWrite_eq_ok h
  have hget := RouteRepository.getByName_of_create_eq_ok hcreate
  obtain ⟨-, rfl, -⟩ := (RouteRepository.create_eq_ok_iff _ _ _ _).1 hcreate
  simp only [createRouteHandler, h, commitWrite_ok_snd, getRouteHandler,
    RouteApiState.requireRouteRepository, RouteApiState.committed_routeRepository] at hget ⊢
  simp [hget, routeResponseFromData, hstrip config hc,
    RouteDefinition.fromXdsConfig_of_toXdsConfig_eq_ok hc, bind, Except.bind, Except.mapError,
    pure, Except.pure]

/-- A create whose refresh failed is still read back. -/
theorem getRouteHandler_after_create_sample :
    (∀ config, sampleRouteDefinition.toXdsConfig = .ok config → id config = config) ∧
      ∃ response repo', createRouteWrite (fun _ => .ok ()) ⟨some .empty, []⟩ sampleRouteDefinition =
          .ok (response, repo') ∧
        getRouteHandler id (createRouteHandler (fun _ => .ok ()) ⟨some .empty, []⟩
          (.error (.notFound "primary-routes")) sampleRouteDefinition).2
          sampleRouteDefinition.name = .ok response :=
  ⟨fun _ _ => rfl, _, _, rfl, getRouteHandler_after_create (fun _ _ => rfl) (by rfl) _⟩

/-- `create_route_persists_configuration` and `get_route_returns_definition`: the create stores
the summary columns `/api` and `api-cluster`, and a read returns the definition. -/
example :
    let created := createRouteHandler (fun _ => .ok ()) ⟨some .empty, []⟩ (.ok ())
      sampleRouteDefinition
    (created.2.routeRepository.map fun repo =>
        repo.latest.map fun row => (row.name, row.pathPrefix, row.clusterName)) =
      some [("primary-routes", "/api", "api-cluster")] ∧
    getRouteHandler id created.2 "primary-routes" =
      .ok ⟨"primary-routes", "/api", "api-cluster", sampleRouteDefinition⟩ :=
  ⟨by decide, rfl⟩

/-- **The summary of a configuration the validator accepts is read off the first route of its
first virtual host**: the route's path match, rendered as its value, `regex:` or `template:`
and its value, and the target of its action: the cluster it forwards to, the first of its weighted
clusters, which it always has, or `__redirect__`.  The target is never empty. -/
theorem summarizeRoute_of_validateRoutePayload {d : RouteDefinition σ}
    (h : validateRoutePayload d = .ok ()) :
    ∃ vh vhs r rs, d.virtualHosts = vh :: vhs ∧ vh.routes = r :: rs ∧
      (∀ value, r.«match».path = .exact value → (summarizeRoute d).1 = value) ∧
      (∀ value, r.«match».path = .prefix_ value → (summarizeRoute d).1 = value) ∧
      (∀ value, r.«match».path = .regex value → (summarizeRoute d).1 = "regex:" ++ value) ∧
      (∀ t, r.«match».path = .template t → (summarizeRoute d).1 = "template:" ++ t) ∧
      (∀ cluster timeout prefixRewrite templateRewrite,
        r.action = .forward cluster timeout prefixRewrite templateRewrite →
          (summarizeRoute d).2 = cluster) ∧
      (∀ clusters totalWeight, r.action = .weighted clusters totalWeight →
        ∃ c cs, clusters = c :: cs ∧ (summarizeRoute d).2 = c.name) ∧
      (∀ host path code, r.action = .redirect host path code →
        (summarizeRoute d).2 = "__redirect__") ∧
      (summarizeRoute d).2 ≠ "" := by
  obtain ⟨-, hne, hvalid⟩ := (validateRoutePayload_eq_ok_iff d).1 h
  obtain ⟨vh, vhs, hvh⟩ := List.exists_cons_of_ne_nil hne
  have hvh' : vh.Valid := hvalid vh (hvh ▸ List.mem_cons_self _ _)
  obtain ⟨r, rs, hr⟩ := List.exists_cons_of_ne_nil hvh'.routes.1
  have hr' : r.Valid := hvh'.routes.2 r (hr ▸ List.mem_cons_self _ _)
  have weighted : ∀ clusters totalWeight, r.action = .weighted clusters totalWeight →
      ∃ c cs, clusters = c :: cs ∧ r.action.summary = c.name := by
    intro clusters totalWeight ha
    have hwf := hr'.action
    rw [ha] at hwf ⊢
    obtain ⟨c, cs, rfl⟩ := List.exists_cons_of_ne_nil hwf.1
    exact ⟨c, cs, rfl, rfl⟩
  rw [summarizeRoute_of_first hvh hr]
  exact ⟨vh, vhs, r, rs, hvh, hr, fun _ hp => by rw [hp]; rfl, fun _ hp => by rw [hp]; rfl,
    fun _ hp => by rw [hp]; rfl, fun _ hp => by rw [hp]; rfl, fun _ _ _ _ ha => by rw [ha]; rfl,
    weighted, fun _ _ _ ha => by rw [ha]; rfl, RouteActionDefinition.summary_ne_empty hr'.action⟩

theorem summarizeRoute_of_validateRoutePayload_sample :
    validateRoutePayload sampleRouteDefinition = .ok () ∧
      ∃ vh vhs r rs, sampleRouteDefinition.virtualHosts = vh :: vhs ∧ vh.routes = r :: rs ∧
        (∀ value, r.«match».path = .exact value →
          (summarizeRoute sampleRouteDefinition).1 = value) ∧
        (∀ value, r.«match».path = .prefix_ value →
          (summarizeRoute sampleRouteDefinition).1 = value) ∧
        (∀ value, r.«match».path = .regex value →
          (summarizeRoute sampleRouteDefinition).1 = "regex:" ++ value) ∧
        (∀ t, r.«match».path = .template t →
          (summarizeRoute sampleRouteDefinition).1 = "template:" ++ t) ∧
        (∀ cluster timeout prefixRewrite templateRewrite,
          r.action = .forward cluster timeout prefixRewrite templateRewrite →
            (summarizeRoute sampleRouteDefinition).2 = cluster) ∧
        (∀ clusters totalWeight, r.action = .weighted clusters totalWeight →
          ∃ c cs, clusters = c :: cs ∧ (summarizeRoute sampleRouteDefinition).2 = c.name) ∧
        (∀ host path code, r.action = .redirect host path code →
          (summarizeRoute sampleRouteDefinition).2 = "__redirect__") ∧
        (summarizeRoute sampleRouteDefinition).2 ≠ "" :=
  ⟨rfl, summarizeRoute_of_validateRoutePayload rfl⟩

/-- A catch-all route to a cluster named `unknown`, which the validator accepts. -/
def catchAllRoutes : RouteDefinition Unit :=
  ⟨"catch-all-routes", [⟨"default", ["*"], [⟨none, ⟨.prefix_ "*", [], []⟩,
    .forward "unknown" none none none, []⟩], []⟩]⟩

/-- The summary of a configuration the validator accepts may still read `*` and `unknown`, when
its first route matches the prefix `*` and forwards to a cluster named `unknown`. -/
theorem summarizeRoute_catchAllRoutes :
    validateRoutePayload catchAllRoutes = .ok () ∧
      summarizeRoute catchAllRoutes = ("*", "unknown") :=
  ⟨rfl, rfl⟩

/-- **Read your writes**, for an update: a read of the name returns what the update answered. -/
theorem getRouteHandler_after_update {st : RouteApiState σ} {name : String}
    {payload : RouteDefinition σ} {response : RouteResponse σ} {repo' : RouteRepository σ}
    (hw : st.WF)
    (hstrip : ∀ config, payload.toXdsConfig = .ok config → stripGatewayTags config = config)
    (h : updateRouteWrite toEnvoyRouteConfiguration st name payload = .ok (response, repo'))
    (refresh : Except Error Unit) :
    getRouteHandler stripGatewayTags
      (updateRouteHandler toEnvoyRouteConfiguration st refresh name payload).2 name =
        .ok response := by
  obtain ⟨repo, existing, config, row, -, -, hrepo, hex, hc, -, hupdate, rfl⟩ :=
    updateRouteWrite_eq_ok h
  obtain ⟨rfl, hget⟩ := (hw repo hrepo).getByName_of_update_eq_ok hex hupdate
  simp only [updateRouteHandler, h, commitWrite_ok_snd, getRouteHandler,
    RouteApiState.requireRouteRepository, RouteApiState.committed_routeRepository]
  simp [hget, routeResponseFromData, RouteRepository.RouteRow.updated, hstrip config hc,
    RouteDefinition.fromXdsConfig_of_toXdsConfig_eq_ok hc, bind, Except.bind, Except.mapError,
    pure, Except.pure]

theorem getRouteHandler_after_update_sample :
    (⟨some primaryRoutesRepository, []⟩ : RouteApiState Unit).WF ∧
      (∀ config, sampleRouteDefinition.toXdsConfig = .ok config → id config = config) ∧
      ∃ response repo', updateRouteWrite (fun _ => .ok ()) ⟨some primaryRoutesRepository, []⟩
          "primary-routes" sampleRouteDefinition = .ok (response, repo') ∧
        getRouteHandler id (updateRouteHandler (fun _ => .ok ())
          ⟨some primaryRoutesRepository, []⟩ (.ok ()) "primary-routes"
          sampleRouteDefinition).2 "primary-routes" = .ok response :=
  ⟨RouteApiState.wf_of_routeRepository rfl primaryRoutesRepository_wf, fun _ _ => rfl, _, _, rfl,
    getRouteHandler_after_update (RouteApiState.wf_of_routeRepository rfl primaryRoutesRepository_wf)
      (fun _ _ => rfl) (by rfl) _⟩

/-! ### Lists -/

variable {page : Option ℤ → Option ℤ → List (RouteRow σ) → List (RouteRow σ)}

theorem listRoutesHandler_eq_ok_iff {st : RouteApiState σ} {params : ListRoutesQuery}
    {responses : List (RouteResponse σ)} :
    listRoutesHandler stripGatewayTags page st params = .ok responses ↔
      ∃ repo, st.routeRepository = some repo ∧
        responses = (repo.list page params.limit params.offset).map
          (routeResponseFromData stripGatewayTags) := by
  simp only [listRoutesHandler, except_bind_eq_ok, RouteApiState.requireRouteRepository_eq_ok_iff,
    pure, Except.pure, Except.ok.injEq]
  exact exists_congr fun _ => and_congr_right fun _ => eq_comm

/-- **A list agrees with a get**: every configuration on a page of a list is what a get of its
name returns. -/
theorem getRouteHandler_of_mem_listRoutesHandler {st : RouteApiState σ}
    {params : ListRoutesQuery} {responses : List (RouteResponse σ)} {response : RouteResponse σ}
    (hpage : ∀ rows, page params.limit params.offset rows ⊆ rows)
    (h : listRoutesHandler stripGatewayTags page st params = .ok responses)
    (hr : response ∈ responses) :
    getRouteHandler stripGatewayTags st response.name = .ok response := by
  obtain ⟨repo, hrepo, rfl⟩ := listRoutesHandler_eq_ok_iff.1 h
  obtain ⟨row, hrow, rfl⟩ := List.mem_map.1 hr
  have hget := (RouteRepository.mem_latest_iff repo row).1 (hpage _ hrow)
  simp [getRouteHandler, RouteApiState.requireRouteRepository, hrepo, routeResponseFromData, hget,
    bind, Except.bind, Except.mapError, pure, Except.pure]

theorem getRouteHandler_of_mem_listRoutesHandler_primaryRoutes :
    (∀ rows : List (RouteRow Unit), (fun _ _ rows => rows : Option ℤ → Option ℤ →
        List (RouteRow Unit) → List (RouteRow Unit)) none none rows ⊆ rows) ∧
      ∃ responses, listRoutesHandler id (fun _ _ rows => rows)
          ⟨some primaryRoutesRepository, []⟩ ⟨none, none⟩ = .ok responses ∧
        ∀ response ∈ responses, getRouteHandler id ⟨some primaryRoutesRepository, []⟩
          response.name = .ok response :=
  ⟨fun _ => List.Subset.refl _, _, rfl, fun _ hr =>
    getRouteHandler_of_mem_listRoutesHandler (fun _ => List.Subset.refl _) rfl hr⟩

end Runs

end Flowplane
