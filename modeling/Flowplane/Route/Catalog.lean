import Flowplane.Route.Runs

/-
**The route API as a catalog of configurations.**

`Flowplane.Route.Store` keeps every version of every route configuration, under ids, and
`Flowplane.Route.Handlers` runs the checks of a request before it writes.  What the route API is
for is simpler than either: it keeps a catalog with at most one entry under each name.  A create
adds an entry under a new name, an update rewrites the entry of a name in use with the next
version, and a delete removes the entry of a name that is not the default gateway route
configuration's; each write stores only a payload its checks admit, and a read finds the entry of
a name in use.

This module states that catalog as a machine of its own, `Flowplane.RouteCatalog.handle`, and
proves that the handlers refine it.  Read through `Flowplane.RouteRepository.catalog` — under each
name, the latest row — every request changes the repository as the catalog's step says, and is
answered with success exactly when the catalog's step succeeds and, for a write, the refresh after
it too.  The step lemmas are one per repository operation (`create`, `update`, `delete`), each
stated on the catalog, and one per write handler; the run lemma is their induction.

The catalog never looks at a refresh, and neither does the repository: the handlers read nothing
of the state but the repository, so two runs of the same requests leave the same repository
whatever their refreshes did — a failed refresh loses no write and repeats none.

Main definitions:

* `Flowplane.RouteEntry`, `Flowplane.RouteCatalog` — an entry and the catalog;
* `Flowplane.RouteCatalog.write?`, `Flowplane.RouteCatalog.handle`, `Flowplane.RouteCatalog.run`,
  `Flowplane.RouteCatalog.replies` — the abstract machine;
* `Flowplane.admittedConfig` — the configuration the checks of a write let through;
* `Flowplane.RouteRepository.catalog` — the catalog the rows of the repository stand for;
* `Flowplane.RouteEntry.response` — the answer a read gives from an entry.

Main results:

* `Flowplane.RouteRepository.catalog_create`, `Flowplane.RouteRepository.WF.catalog_update`,
  `Flowplane.RouteRepository.WF.catalog_delete` — each operation of the repository, read as a
  catalog;
* `Flowplane.handleRoute_refines` — **one request refines the catalog's step**;
* `Flowplane.runRoutes_refines` — **every run refines the catalog's run**, in the catalog it
  leaves and in the success of every answer;
* `Flowplane.getRouteHandler_toOption`, `Flowplane.getRouteHandler_runRoutes` — a read answers
  the catalog's entry, so **after every run a read answers the entry of the catalog's run**;
* `Flowplane.mem_listRoutesHandler_toOption`, `Flowplane.listRoutesHandler_runRoutes` — the same
  of a list that keeps every row: it shows the answers of the catalog's entries;
* `Flowplane.runRoutes_routeRepository_eq_of_requests` — the repository a run leaves depends on
  its requests alone, not on the outcomes of the refreshes.
-/

set_option autoImplicit false

namespace Flowplane

variable {σ : Type}

/-! ### `Result::ok` -/

@[simp] theorem except_toOption_bind {ε α β : Type} (x : Except ε α) (f : α → Except ε β) :
    (x >>= f).toOption = x.toOption.bind fun a => (f a).toOption := by
  cases x <;> rfl

@[simp] theorem except_toOption_mapError {ε ε' α : Type} (f : ε → ε') (x : Except ε α) :
    (x.mapError f).toOption = x.toOption := by
  cases x <;> rfl

@[simp] theorem except_toOption_ok {ε α : Type} (a : α) :
    (Except.ok a : Except ε α).toOption = some a := rfl

@[simp] theorem except_toOption_error {ε α : Type} (e : ε) :
    (Except.error e : Except ε α).toOption = none := rfl

@[simp] theorem except_toOption_pure {ε α : Type} (a : α) :
    (pure a : Except ε α).toOption = some a := rfl

/-- Answering a write with a response built from its row changes nothing of the repository it
leaves. -/
theorem option_map_bind_pair {α β γ δ : Type} (x : Option (α × β)) (f : α × β → γ)
    (g : β → δ) : ((x.bind fun a => some (f a, a.2)).map fun p => g p.2) = x.map fun a => g a.2 := by
  cases x <;> rfl

/-! ### The catalog -/

/-- An entry of the catalog: the two summary columns, the xDS configuration, and the number of
writes of the name since its create. -/
structure RouteEntry (σ : Type) where
  pathPrefix : String
  clusterName : String
  configuration : Xds.RouteConfig σ
  version : ℕ

/-- The answer a read gives from an entry: the name, the two summary columns, and the definition
read back from the configuration once its gateway tags are stripped. -/
def RouteEntry.response (stripGatewayTags : Xds.RouteConfig σ → Xds.RouteConfig σ) (name : String)
    (entry : RouteEntry σ) : RouteResponse σ :=
  ⟨name, entry.pathPrefix, entry.clusterName,
    RouteDefinition.fromXdsConfig (stripGatewayTags entry.configuration)⟩

/-- A catalog of route configurations: at most one entry under each name. -/
abbrev RouteCatalog (σ : Type) : Type := String → Option (RouteEntry σ)

namespace RouteCatalog

/-- The entry a write stores for a payload its checks admit: the summary of the payload, the
configuration, and a version. -/
def entryOf (payload : RouteDefinition σ) (config : Xds.RouteConfig σ) (version : ℕ) :
    RouteEntry σ :=
  ⟨(summarizeRoute payload).1, (summarizeRoute payload).2, config, version⟩

variable (accept : RouteDefinition σ → Option (Xds.RouteConfig σ))
variable (isDefaultGatewayRoute : String → Bool)

/-- The catalog a write leaves, or `none` when the write is refused and the catalog stays as it
was.  A create needs a payload the checks admit, under a name not in use; an update a payload the
checks admit, named as the path, under a name in use; a delete a name in use that is not the
default gateway route configuration's.  A read writes nothing. -/
def write? (cat : RouteCatalog σ) : RouteRequest σ → Option (RouteCatalog σ)
  | .create payload => (accept payload).bind fun config =>
      if (cat payload.name).isSome then none
      else some (Function.update cat payload.name (some (entryOf payload config 1)))
  | .get _ => none
  | .update name payload => (accept payload).bind fun config =>
      if payload.name = name then
        (cat name).map fun entry =>
          Function.update cat name (some (entryOf payload config (entry.version + 1)))
      else none
  | .delete name =>
      if isDefaultGatewayRoute name then none
      else (cat name).map fun _ => Function.update cat name none

/-- One request to the catalog: whether it is answered with success, and the catalog it leaves.
A read succeeds on a name in use.  A write takes effect whatever its refresh does, and is answered
with success when it takes effect and the refresh succeeds. -/
def handle (cat : RouteCatalog σ) (refresh : Except Error Unit) :
    RouteRequest σ → Bool × RouteCatalog σ
  | .get name => ((cat name).isSome, cat)
  | request =>
      match write? accept isDefaultGatewayRoute cat request with
      | some cat' => (refresh.toBool, cat')
      | none => (false, cat)

/-- The catalog a run of requests leaves. -/
def run (cat : RouteCatalog σ) (requests : List (RouteRequest σ × Except Error Unit)) :
    RouteCatalog σ :=
  requests.foldl (fun cat request => (handle accept isDefaultGatewayRoute cat request.2 request.1).2)
    cat

/-- Whether each request of a run is answered with success, in order. -/
def replies : RouteCatalog σ → List (RouteRequest σ × Except Error Unit) → List Bool
  | _, [] => []
  | cat, request :: requests =>
      (handle accept isDefaultGatewayRoute cat request.2 request.1).1 ::
        replies (handle accept isDefaultGatewayRoute cat request.2 request.1).2 requests

end RouteCatalog

/-! ### The catalog the repository stands for -/

/-- The entry a stored row stands for. -/
def RouteRow.entry (row : RouteRow σ) : RouteEntry σ :=
  ⟨row.pathPrefix, row.clusterName, row.configuration, row.version⟩

namespace RouteRepository

/-- The catalog the rows of the repository stand for: under each name, the entry of its latest
row. -/
def catalog (repo : RouteRepository σ) : RouteCatalog σ :=
  fun name => (repo.history name).getLast?.map RouteRow.entry

/-- The catalog is what `get_by_name` reads. -/
theorem catalog_eq_getByName (repo : RouteRepository σ) (name : String) :
    repo.catalog name = (repo.getByName name).toOption.map RouteRow.entry := by
  simp only [catalog, getByName]
  split <;> simp_all [Except.toOption]

/-- A name has an entry exactly when some row carries it. -/
theorem catalog_isSome (repo : RouteRepository σ) (name : String) :
    (repo.catalog name).isSome = repo.rows.any (·.name = name) := by
  rw [Bool.eq_iff_iff, List.any_eq_true]
  simp [catalog, ← Option.ne_none_iff_isSome, List.getLast?_eq_none_iff, history_eq_nil_iff]

/-- Appending a row sets the entry of its name. -/
theorem catalog_append (repo : RouteRepository σ) (row : RouteRow σ) (nextId : ℕ) :
    (⟨repo.rows ++ [row], nextId⟩ : RouteRepository σ).catalog =
      Function.update repo.catalog row.name (some row.entry) := by
  funext name
  by_cases hn : name = row.name
  · subst hn
    simp [catalog, history, List.filter_append]
  · simp [catalog, history, List.filter_append, hn, Function.update_noteq hn, Ne.symm hn]

/-- **A create adds an entry under a new name**, and is refused under a name in use. -/
theorem catalog_create (repo : RouteRepository σ) (request : CreateRouteRequest σ) :
    (repo.create request).toOption.map (·.2.catalog) =
      if (repo.catalog request.name).isSome then none
      else some (Function.update repo.catalog request.name
        (some ⟨request.pathPrefix, request.clusterName, request.configuration, 1⟩)) := by
  rw [catalog_isSome]
  by_cases h : repo.rows.any (·.name = request.name)
  · simp [create, h, Except.toOption]
  · simp only [create, h, Bool.false_eq_true, if_false, Except.toOption, Option.map_some']
    exact congrArg some (catalog_append repo _ _)

/-- **An update of the latest row of a name rewrites its entry**, with the next version. -/
theorem WF.catalog_update {repo : RouteRepository σ} (hw : repo.WF) {name : String}
    {existing : RouteRow σ} (hex : repo.getByName name = .ok existing)
    (request : UpdateRouteRequest σ) :
    (repo.update existing.id request).toOption.map (·.2.catalog) =
      some (Function.update repo.catalog name (some (RouteRow.updated existing request).entry)) := by
  obtain ⟨hmem, rfl⟩ := mem_rows_of_getByName hex
  rw [getByName_eq_ok_iff] at hex
  have hupdate : repo.update existing.id request = .ok (RouteRow.updated existing request,
      ⟨repo.rows ++ [RouteRow.updated existing request], repo.nextId⟩) := by
    unfold RouteRepository.update
    rw [hw.rowsOfId_eq hmem, hex]
  rw [hupdate, except_toOption_ok, Option.map_some']
  exact congrArg some (catalog_append repo _ _)

/-- **A delete of the id of a name removes its entry** and no other. -/
theorem WF.catalog_delete {repo : RouteRepository σ} (hw : repo.WF) {name : String}
    {existing : RouteRow σ} (hex : repo.getByName name = .ok existing) :
    (repo.delete existing.id).toOption.map catalog =
      some (Function.update repo.catalog name none) := by
  obtain ⟨hmem, rfl⟩ := mem_rows_of_getByName hex
  have hdel : repo.delete existing.id = .ok ⟨repo.rows.filter (·.id ≠ existing.id), repo.nextId⟩ :=
    if_pos (List.any_eq_true.2 ⟨existing, hmem, decide_eq_true rfl⟩)
  rw [hdel]
  refine congrArg some (funext fun name => ?_)
  have hsame : (∃ r ∈ repo.rows, r.id = existing.id ∧ r.name = name) ↔ name = existing.name :=
    ⟨fun ⟨r, hr, hid, hn⟩ => hn ▸ (hw.id_eq_iff r hr existing hmem).1 hid,
      fun hn => ⟨existing, hmem, rfl, hn.symm⟩⟩
  simp only [catalog, hw.history_delete hdel name, hsame]
  by_cases hn : name = existing.name
  · subst hn
    simp
  · simp [hn, Function.update_noteq hn, catalog]

end RouteRepository

/-! ### The checks of a write, as the catalog sees them -/

section Writes

variable (toEnvoyRouteConfiguration : Xds.RouteConfig σ → Except Error Unit)

/-- The configuration the checks of a write let through: the payload passes the validator,
converts to xDS, and the encoder check accepts the result. -/
def admittedConfig (payload : RouteDefinition σ) : Option (Xds.RouteConfig σ) :=
  (validateRoutePayload payload >>= fun _ =>
    payload.toXdsConfig >>= validateRouteConfig toEnvoyRouteConfiguration).toOption

variable {toEnvoyRouteConfiguration}
variable {isDefaultGatewayRoute : String → Bool}

/-- A create writes exactly the catalog's create. -/
theorem createRouteWrite_catalog {st : RouteApiState σ} {repo : RouteRepository σ}
    (hrepo : st.routeRepository = some repo) (payload : RouteDefinition σ)
    (isDefaultGatewayRoute : String → Bool) :
    (createRouteWrite toEnvoyRouteConfiguration st payload).toOption.map (·.2.catalog) =
      repo.catalog.write? (admittedConfig toEnvoyRouteConfiguration) isDefaultGatewayRoute
        (.create payload) := by
  simp only [createRouteWrite, RouteCatalog.write?, admittedConfig,
    RouteApiState.requireRouteRepository, hrepo]
  rcases validateRoutePayload payload with e | ⟨⟩
  · rfl
  rcases payload.toXdsConfig >>= validateRouteConfig toEnvoyRouteConfiguration with e | config
  · rfl
  · simp only [except_toOption_bind, except_toOption_mapError, except_toOption_pure,
      except_toOption_ok, Option.some_bind, option_map_bind_pair]
    exact repo.catalog_create _

/-- An update writes exactly the catalog's update. -/
theorem updateRouteWrite_catalog {st : RouteApiState σ} {repo : RouteRepository σ}
    (hrepo : st.routeRepository = some repo) (hw : repo.WF) (name : String)
    (payload : RouteDefinition σ) :
    (updateRouteWrite toEnvoyRouteConfiguration st name payload).toOption.map (·.2.catalog) =
      repo.catalog.write? (admittedConfig toEnvoyRouteConfiguration) isDefaultGatewayRoute
        (.update name payload) := by
  simp only [updateRouteWrite, RouteCatalog.write?, admittedConfig,
    RouteApiState.requireRouteRepository, hrepo]
  rcases validateRoutePayload payload with e | ⟨⟩
  · rfl
  by_cases hname : payload.name = name
  · subst hname
    rcases hex : repo.getByName payload.name with e | existing <;>
      rcases payload.toXdsConfig >>= validateRouteConfig toEnvoyRouteConfiguration with e' | config
    all_goals simp only [ne_eq, not_true_eq_false, if_false, if_true, pure_bind,
      except_toOption_bind, except_toOption_mapError, except_toOption_pure, except_toOption_ok,
      except_toOption_error, Option.some_bind, Option.none_bind, Option.map_none',
      Option.map_some', option_map_bind_pair, hex, RouteRepository.catalog_eq_getByName]
    exact hw.catalog_update hex _
  · simp [hname, throw, throwThe, MonadExceptOf.throw]

/-- A delete writes exactly the catalog's delete. -/
theorem deleteRouteWrite_catalog {st : RouteApiState σ} {repo : RouteRepository σ}
    (hrepo : st.routeRepository = some repo) (hw : repo.WF) (name : String)
    (accept : RouteDefinition σ → Option (Xds.RouteConfig σ)) :
    (deleteRouteWrite isDefaultGatewayRoute st name).toOption.map (·.2.catalog) =
      repo.catalog.write? accept isDefaultGatewayRoute (.delete name) := by
  simp only [deleteRouteWrite, RouteCatalog.write?, RouteApiState.requireRouteRepository, hrepo]
  cases isDefaultGatewayRoute name
  · rcases hex : repo.getByName name with e | existing
    all_goals simp only [if_false, Bool.false_eq_true, pure_bind, except_toOption_bind,
      except_toOption_mapError, except_toOption_pure, except_toOption_ok, except_toOption_error,
      Option.some_bind, Option.none_bind, Option.map_none', Option.map_some', hex,
      RouteRepository.catalog_eq_getByName]
    rw [← hw.catalog_delete hex]
    cases (repo.delete existing.id).toOption <;> rfl
  · simp [throw, throwThe, MonadExceptOf.throw]

end Writes

/-! ### The handlers refine the catalog -/

section Refinement

variable {toEnvoyRouteConfiguration : Xds.RouteConfig σ → Except Error Unit}
variable {isDefaultGatewayRoute : String → Bool}
variable {stripGatewayTags : Xds.RouteConfig σ → Xds.RouteConfig σ}

@[simp] theorem except_toBool_map {ε α β : Type} (f : α → β) (x : Except ε α) :
    (x.map f).toBool = x.toBool := by
  cases x <;> rfl

/-- A request other than a read is the catalog's write. -/
theorem RouteCatalog.handle_of_ne_get (accept : RouteDefinition σ → Option (Xds.RouteConfig σ))
    {cat : RouteCatalog σ} {refresh : Except Error Unit} {request : RouteRequest σ}
    (hget : ∀ name, request ≠ .get name) :
    cat.handle accept isDefaultGatewayRoute refresh request =
      match cat.write? accept isDefaultGatewayRoute request with
      | some cat' => (refresh.toBool, cat')
      | none => (false, cat) := by
  cases request <;> first | rfl | exact absurd rfl (hget _)

/-- **The end of a write refines the catalog's step**, when the write itself is the catalog's
write: the answer succeeds exactly when the write and the refresh do, and the repository left is
the write's, whatever the refresh does. -/
theorem commitWrite_refines {α : Type} {accept : RouteDefinition σ → Option (Xds.RouteConfig σ)}
    {st : RouteApiState σ} {repo : RouteRepository σ} (hrepo : st.routeRepository = some repo)
    (refresh : Except Error Unit) {request : RouteRequest σ} (hget : ∀ name, request ≠ .get name)
    {write : Except ApiError (α × RouteRepository σ)}
    (hwrite : write.toOption.map (·.2.catalog) =
      repo.catalog.write? accept isDefaultGatewayRoute request) :
    ((commitWrite st refresh write).1.toBool,
      (commitWrite st refresh write).2.routeRepository.map RouteRepository.catalog) =
    Prod.map id some (repo.catalog.handle accept isDefaultGatewayRoute refresh request) := by
  rw [RouteCatalog.handle_of_ne_get accept hget, ← hwrite]
  rcases write with e | ⟨a, repo'⟩
  · simp [hrepo, Except.toBool]
  · cases refresh <;> rfl

/-- **One request refines the catalog's step**: read as a catalog, the repository a request
leaves is the catalog's, and the request is answered with success exactly when the catalog's step
answers it so. -/
theorem handleRoute_refines {st : RouteApiState σ} {repo : RouteRepository σ}
    (hrepo : st.routeRepository = some repo) (hw : repo.WF) (refresh : Except Error Unit)
    (request : RouteRequest σ) :
    ((handleRoute toEnvoyRouteConfiguration isDefaultGatewayRoute stripGatewayTags st refresh
        request).1.toBool,
      (handleRoute toEnvoyRouteConfiguration isDefaultGatewayRoute stripGatewayTags st refresh
        request).2.routeRepository.map RouteRepository.catalog) =
    Prod.map id some (repo.catalog.handle (admittedConfig toEnvoyRouteConfiguration)
      isDefaultGatewayRoute refresh request) := by
  cases request with
  | get name =>
      simp only [handleRoute, RouteCatalog.handle, except_toBool_map, hrepo, Option.map_some',
        getRouteHandler, RouteApiState.requireRouteRepository, RouteRepository.catalog_eq_getByName,
        except_ok_bind]
      rcases repo.getByName name with e | row <;> rfl
  | create payload =>
      simpa only [handleRoute, createRouteHandler, Prod.map_fst, Prod.map_snd, except_toBool_map,
        id] using commitWrite_refines hrepo refresh (fun _ h => by cases h)
          (createRouteWrite_catalog hrepo payload isDefaultGatewayRoute)
  | update name payload =>
      simpa only [handleRoute, updateRouteHandler, Prod.map_fst, Prod.map_snd, except_toBool_map,
        id] using commitWrite_refines hrepo refresh (fun _ h => by cases h)
          (updateRouteWrite_catalog hrepo hw name payload)
  | delete name =>
      simpa only [handleRoute, deleteRouteHandler, Prod.map_fst, Prod.map_snd, except_toBool_map,
        id] using commitWrite_refines hrepo refresh (fun _ h => by cases h)
          (deleteRouteWrite_catalog hrepo hw name (admittedConfig toEnvoyRouteConfiguration))

/-- Read as a catalog, the repository a run leaves is the catalog's run. -/
theorem runRoutes_catalog {st : RouteApiState σ} {repo : RouteRepository σ}
    (hrepo : st.routeRepository = some repo) (hw : repo.WF)
    (requests : List (RouteRequest σ × Except Error Unit)) :
    (runRoutes toEnvoyRouteConfiguration isDefaultGatewayRoute stripGatewayTags st
        requests).routeRepository.map RouteRepository.catalog =
      some (repo.catalog.run (admittedConfig toEnvoyRouteConfiguration) isDefaultGatewayRoute
        requests) := by
  induction requests generalizing st repo with
  | nil => simp [runRoutes, RouteCatalog.run, hrepo]
  | cons x xs ih =>
      have hcat := congrArg Prod.snd (@handleRoute_refines σ toEnvoyRouteConfiguration
        isDefaultGatewayRoute stripGatewayTags _ _ hrepo hw x.2 x.1)
      obtain ⟨repo', hrepo', hcat'⟩ := Option.map_eq_some'.1 hcat
      rw [runRoutes, List.foldl_cons, ← runRoutes,
        ih hrepo' ((RouteApiState.wf_of_routeRepository hrepo hw).handleRoute x.2 x.1 repo' hrepo'),
        hcat']
      rfl

/-- **Every run refines the catalog's run**: from a state with a repository, the repository a run
leaves, read as a catalog, is the catalog the catalog's run leaves, and each request of the run is
answered with success exactly when the catalog's run answers it so. -/
theorem runRoutes_refines {st : RouteApiState σ} {repo : RouteRepository σ}
    (hrepo : st.routeRepository = some repo) (hw : repo.WF)
    (requests : List (RouteRequest σ × Except Error Unit)) :
    (runRouteReplies toEnvoyRouteConfiguration isDefaultGatewayRoute stripGatewayTags st
        requests).map Except.toBool =
      repo.catalog.replies (admittedConfig toEnvoyRouteConfiguration) isDefaultGatewayRoute
        requests ∧
    (runRoutes toEnvoyRouteConfiguration isDefaultGatewayRoute stripGatewayTags st
        requests).routeRepository.map RouteRepository.catalog =
      some (repo.catalog.run (admittedConfig toEnvoyRouteConfiguration) isDefaultGatewayRoute
        requests) := by
  refine ⟨?_, runRoutes_catalog hrepo hw requests⟩
  induction requests generalizing st repo with
  | nil => rfl
  | cons x xs ih =>
      obtain ⟨hreply, hcat⟩ := Prod.ext_iff.1 (@handleRoute_refines σ toEnvoyRouteConfiguration
        isDefaultGatewayRoute stripGatewayTags _ _ hrepo hw x.2 x.1)
      simp only [Prod.map_fst, Prod.map_snd, id] at hreply hcat
      obtain ⟨repo', hrepo', hcat'⟩ := Option.map_eq_some'.1 hcat
      rw [runRouteReplies, List.map_cons, hreply,
        ih hrepo' ((RouteApiState.wf_of_routeRepository hrepo hw).handleRoute x.2 x.1 repo' hrepo'),
        hcat']
      rfl

theorem runRoutes_refines_sample :
    (⟨some .empty, []⟩ : RouteApiState Unit).routeRepository = some .empty ∧
      (RouteRepository.empty : RouteRepository Unit).WF ∧
      ((runRouteReplies (fun _ => .ok ()) (fun _ => false) id ⟨some .empty, []⟩
          [(.create sampleRouteDefinition, .ok ())]).map Except.toBool =
        RouteRepository.empty.catalog.replies (admittedConfig fun _ => .ok ()) (fun _ => false)
          [(.create sampleRouteDefinition, .ok ())] ∧
      (runRoutes (fun _ => .ok ()) (fun _ => false) id ⟨some .empty, []⟩
          [(.create sampleRouteDefinition, .ok ())]).routeRepository.map RouteRepository.catalog =
        some (RouteRepository.empty.catalog.run (admittedConfig fun _ => .ok ()) (fun _ => false)
          [(.create sampleRouteDefinition, .ok ())])) :=
  ⟨rfl, RouteRepository.wf_empty, runRoutes_refines rfl RouteRepository.wf_empty _⟩

/-! ### What reads see -/

/-- **A read answers the catalog's entry**: `get_route_handler` succeeds exactly on a name with an
entry, and answers what the entry holds. -/
theorem getRouteHandler_toOption {st : RouteApiState σ} {repo : RouteRepository σ}
    (hrepo : st.routeRepository = some repo) (name : String) :
    (getRouteHandler stripGatewayTags st name).toOption =
      (repo.catalog name).map (RouteEntry.response stripGatewayTags name) := by
  rw [RouteRepository.catalog_eq_getByName]
  simp only [getRouteHandler, RouteApiState.requireRouteRepository, hrepo, except_ok_bind]
  rcases hget : repo.getByName name with e | row
  · rfl
  · obtain ⟨-, rfl⟩ := RouteRepository.mem_rows_of_getByName hget
    rfl

/-- **After every run, a read answers the entry of the catalog's run**: from a repository that
keeps its invariant, `get_route_handler` in the state a run leaves succeeds exactly on the names
the catalog's run has an entry for, and answers what that entry holds. -/
theorem getRouteHandler_runRoutes {st : RouteApiState σ} {repo : RouteRepository σ}
    (hrepo : st.routeRepository = some repo) (hw : repo.WF)
    (requests : List (RouteRequest σ × Except Error Unit)) (name : String) :
    (getRouteHandler stripGatewayTags
        (runRoutes toEnvoyRouteConfiguration isDefaultGatewayRoute stripGatewayTags st requests)
        name).toOption =
      (repo.catalog.run (admittedConfig toEnvoyRouteConfiguration) isDefaultGatewayRoute requests
        name).map (RouteEntry.response stripGatewayTags name) := by
  obtain ⟨repo', hrepo', hcat⟩ := Option.map_eq_some'.1 (runRoutes_catalog hrepo hw requests)
  rw [getRouteHandler_toOption hrepo', hcat]

theorem getRouteHandler_runRoutes_sample :
    (⟨some .empty, []⟩ : RouteApiState Unit).routeRepository = some .empty ∧
      (RouteRepository.empty : RouteRepository Unit).WF ∧
      (getRouteHandler id (runRoutes (fun _ => .ok ()) (fun _ => false) id ⟨some .empty, []⟩
          [(.create sampleRouteDefinition, .ok ())]) "primary-routes").toOption =
        (RouteRepository.empty.catalog.run (admittedConfig fun _ => .ok ()) (fun _ => false)
          [(.create sampleRouteDefinition, .ok ())] "primary-routes").map
          (RouteEntry.response id "primary-routes") :=
  ⟨rfl, RouteRepository.wf_empty, getRouteHandler_runRoutes rfl RouteRepository.wf_empty _ _⟩

variable {page : Option ℤ → Option ℤ → List (RouteRow σ) → List (RouteRow σ)}

/-- **A full list answers the catalog's entries**: with a page that keeps every row, a response is
listed exactly when it is the answer of the entry under its name. -/
theorem mem_listRoutesHandler_toOption {st : RouteApiState σ} {repo : RouteRepository σ}
    (hrepo : st.routeRepository = some repo) {params : ListRoutesQuery}
    (hpage : ∀ rows, page params.limit params.offset rows = rows) (response : RouteResponse σ) :
    response ∈ (listRoutesHandler stripGatewayTags page st params).toOption.getD [] ↔
      ∃ entry, repo.catalog response.name = some entry ∧
        entry.response stripGatewayTags response.name = response := by
  rw [listRoutesHandler_eq_ok_iff.2 ⟨repo, hrepo, rfl⟩, except_toOption_ok, Option.getD_some,
    RouteRepository.list, hpage, List.mem_map, RouteRepository.catalog_eq_getByName]
  constructor
  · rintro ⟨row, hrow, rfl⟩
    refine ⟨row.entry, ?_, rfl⟩
    show (repo.getByName row.name).toOption.map RouteRow.entry = some row.entry
    rw [(RouteRepository.mem_latest_iff repo row).1 hrow]
    rfl
  · rintro ⟨entry, hentry, hresponse⟩
    rcases hget : repo.getByName response.name with e | row <;> rw [hget] at hentry
    · cases hentry
    · cases hentry
      obtain ⟨-, hname⟩ := RouteRepository.mem_rows_of_getByName hget
      refine ⟨row, (RouteRepository.mem_latest_iff repo row).2 (hname ▸ hget), ?_⟩
      rw [← hresponse, ← hname]
      rfl

/-- **After every run, a full list answers the entries of the catalog's run**: from a repository
that keeps its invariant, a list that keeps every row, in the state a run leaves, shows a response
exactly when it is the answer of the entry the catalog's run has under its name. -/
theorem listRoutesHandler_runRoutes {st : RouteApiState σ} {repo : RouteRepository σ}
    (hrepo : st.routeRepository = some repo) (hw : repo.WF)
    (requests : List (RouteRequest σ × Except Error Unit)) {params : ListRoutesQuery}
    (hpage : ∀ rows, page params.limit params.offset rows = rows) (response : RouteResponse σ) :
    response ∈ (listRoutesHandler stripGatewayTags page
        (runRoutes toEnvoyRouteConfiguration isDefaultGatewayRoute stripGatewayTags st requests)
        params).toOption.getD [] ↔
      ∃ entry, repo.catalog.run (admittedConfig toEnvoyRouteConfiguration) isDefaultGatewayRoute
          requests response.name = some entry ∧
        entry.response stripGatewayTags response.name = response := by
  obtain ⟨repo', hrepo', hcat⟩ := Option.map_eq_some'.1 (runRoutes_catalog hrepo hw requests)
  rw [mem_listRoutesHandler_toOption hrepo' hpage, hcat]

theorem listRoutesHandler_runRoutes_sample :
    (⟨some .empty, []⟩ : RouteApiState Unit).routeRepository = some .empty ∧
      (RouteRepository.empty : RouteRepository Unit).WF ∧
      (∀ rows : List (RouteRow Unit), (fun _ _ rows => rows : Option ℤ → Option ℤ →
        List (RouteRow Unit) → List (RouteRow Unit)) none none rows = rows) ∧
      ((⟨"primary-routes", "/api", "api-cluster", sampleRouteDefinition⟩ : RouteResponse Unit) ∈
          (listRoutesHandler id (fun _ _ rows => rows)
            (runRoutes (fun _ => .ok ()) (fun _ => false) id ⟨some .empty, []⟩
              [(.create sampleRouteDefinition, .ok ())]) ⟨none, none⟩).toOption.getD [] ↔
        ∃ entry, RouteRepository.empty.catalog.run (admittedConfig fun _ => .ok ()) (fun _ => false)
            [(.create sampleRouteDefinition, .ok ())] "primary-routes" = some entry ∧
          entry.response id "primary-routes" =
            ⟨"primary-routes", "/api", "api-cluster", sampleRouteDefinition⟩) :=
  ⟨rfl, RouteRepository.wf_empty, fun _ => rfl,
    @listRoutesHandler_runRoutes Unit (fun _ => .ok ()) (fun _ => false) id (fun _ _ rows => rows)
      _ _ rfl RouteRepository.wf_empty _ ⟨none, none⟩ (fun _ => rfl) _⟩

/-! ### The repository does not depend on the refreshes -/

/-- What the end of a write leaves in the repository: the write's repository, or the one there
was. -/
theorem commitWrite_routeRepository {α : Type} (st : RouteApiState σ)
    (refresh : Except Error Unit) (write : Except ApiError (α × RouteRepository σ)) :
    (commitWrite st refresh write).2.routeRepository =
      (write.toOption.map Prod.snd).or st.routeRepository := by
  rcases write with e | ⟨a, repo⟩
  · rfl
  · exact RouteApiState.committed_routeRepository st refresh repo

/-- A request leaves the same repository from two states with the same repository, whatever
their refreshes and whatever they serve: the handlers read nothing else of the state. -/
theorem handleRoute_routeRepository_congr {st st' : RouteApiState σ}
    (h : st.routeRepository = st'.routeRepository) (refresh refresh' : Except Error Unit)
    (request : RouteRequest σ) :
    (handleRoute toEnvoyRouteConfiguration isDefaultGatewayRoute stripGatewayTags st refresh
        request).2.routeRepository =
      (handleRoute toEnvoyRouteConfiguration isDefaultGatewayRoute stripGatewayTags st' refresh'
        request).2.routeRepository := by
  have hrequire : st.requireRouteRepository = st'.requireRouteRepository := by
    simp only [RouteApiState.requireRouteRepository, h]
  cases request <;>
    simp only [handleRoute, createRouteHandler, updateRouteHandler, deleteRouteHandler,
      Prod.map_snd, id, commitWrite_routeRepository, createRouteWrite, updateRouteWrite,
      deleteRouteWrite, hrequire, h]

/-- **A failed refresh loses no write and repeats none**: two runs of the same requests from
states with the same repository leave the same repository — the same rows, ids and versions —
whatever the outcomes of their refreshes and whatever the states served. -/
theorem runRoutes_routeRepository_eq_of_requests {st st' : RouteApiState σ}
    (h : st.routeRepository = st'.routeRepository)
    {requests requests' : List (RouteRequest σ × Except Error Unit)}
    (hrequests : requests.map Prod.fst = requests'.map Prod.fst) :
    (runRoutes toEnvoyRouteConfiguration isDefaultGatewayRoute stripGatewayTags st
        requests).routeRepository =
      (runRoutes toEnvoyRouteConfiguration isDefaultGatewayRoute stripGatewayTags st'
        requests').routeRepository := by
  induction requests generalizing st st' requests' with
  | nil => cases requests' <;> simp_all [runRoutes]
  | cons x xs ih =>
      cases requests' with
      | nil => simp at hrequests
      | cons y ys =>
          simp only [List.map_cons, List.cons.injEq] at hrequests
          simp only [runRoutes, List.foldl_cons] at ih ⊢
          refine ih ?_ hrequests.2
          rw [hrequests.1]
          exact handleRoute_routeRepository_congr h x.2 y.2 y.1

theorem runRoutes_routeRepository_eq_of_requests_sample :
    (⟨some .empty, []⟩ : RouteApiState Unit).routeRepository =
        (⟨some .empty, []⟩ : RouteApiState Unit).routeRepository ∧
      [(RouteRequest.create sampleRouteDefinition, (.ok () : Except Error Unit))].map Prod.fst =
        [(RouteRequest.create sampleRouteDefinition,
          (.error (.notFound "primary-routes") : Except Error Unit))].map Prod.fst ∧
      (runRoutes (fun _ => .ok ()) (fun _ => false) id ⟨some .empty, []⟩
          [(.create sampleRouteDefinition, .ok ())]).routeRepository =
        (runRoutes (fun _ => .ok ()) (fun _ => false) id ⟨some .empty, []⟩
          [(.create sampleRouteDefinition, .error (.notFound "primary-routes"))]).routeRepository :=
  ⟨rfl, rfl, runRoutes_routeRepository_eq_of_requests rfl rfl⟩

end Refinement

end Flowplane
