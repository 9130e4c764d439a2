import Flowplane.OpenApi.Policies
import Flowplane.Url

/-
**Importing an OpenAPI document as an API definition.**

`openapi_to_api_definition` (`src/src/api/platform_openapi_handlers.rs`) reads a parsed OpenAPI
document into an `ApiDefinition`: the version from `info`, the base path and the upstream from
the first server, and one route for every operation, found by a loop over the paths of the
document and, within each path, over seven HTTP methods.  The loop carries three accumulators —
the routes, the warnings of the tags, and the global policies, which the first route sets.
`import_openapi_handler` lets only documents of OpenAPI 3 through and returns what the mapping
produces, without a further check.

Here the loop is a fold over a state of three fields.  What it computes is stated on its own
terms: the operations of a document are its paths, each with the methods its item has, and what
the loop builds is one route per operation, the warnings of the operations in turn, and the
policies of the first route.  A step lemma says what one operation does to a state whose global
policies are those of its first route; a run lemma extends it to any list of operations.

`url::Url::parse` is not among the sources; what the importer reads of a parsed URL is a
parameter of the module.

Main definitions:

* `Flowplane.ImportState`, `Flowplane.ImportState.addOperation`,
  `Flowplane.ImportState.addPathItem` — the loop;
* `Flowplane.openapiToApiDefinition`, `Flowplane.importOpenapiHandler` — the mapping and the
  handler;
* `Flowplane.redirectGatewayImportHandler` — the legacy endpoint, which redirects to the handler;
* `Flowplane.operations` — the operations of a document, in the order the loop visits them.

Main results:

* `Flowplane.ImportState.foldl_addOperation` — the run lemma;
* `Flowplane.openapiToApiDefinition_routes` — **the routes, the warnings and the global policies
  of an import**;
* `Flowplane.openapiToApiDefinition_invariants` — which invariants of an API definition the
  mapping always meets, and that the others are decided by the document;
* `Flowplane.redirectGatewayImportHandler_eq_some_iff` — the redirect answers exactly for a name
  that is a valid header value, and appends it unencoded;
* `Flowplane.redirectGatewayImportHandler_location` — **a client that follows the redirect reads
  the name back** when it holds no `&`, `+`, `%` or `#`; the decoding of the `Location` is
  `Flowplane.Url`'s.
-/

set_option autoImplicit false

namespace Flowplane

/-! ### The document -/

/-- The methods the loop looks for under a path, in order. -/
def httpMethods : List String := ["get", "post", "put", "delete", "patch", "options", "head"]

/-- The entries of `spec.paths`, or none when it is not an object. -/
def documentPaths (spec : Value) : List (String × Value) :=
  ((spec.get "paths").bind Value.asObject).getD []

/-- The description of a route: the operation's `summary` if it has one, else its
`description`, kept only if it is a string. -/
def operationDescription (operation : Value) : Option String :=
  ((operation.get "summary").orElse fun _ => operation.get "description").bind Value.asStr

/-- The URL of the first server of a document. -/
def serverUrl (spec : Value) : Option String :=
  ((((spec.get "servers").bind Value.asArray).bind List.head?).bind (·.get "url")).bind
    Value.asStr

/-- What the importer reads of a URL that `url::Url::parse` accepts: `scheme()`, `host_str()`,
`port()` (none for the default port of the scheme) and `path()`. -/
structure ParsedUrl where
  scheme : String
  host : Option String
  port : Option UInt16
  path : String

/-! ### The loop over the operations -/

/-- The accumulators of the loop of `openapi_to_api_definition`. -/
structure ImportState where
  routes : List ApiRoute
  warnings : List String
  globalPolicies : Option ApiPolicies

/-- The body of the loop for one operation: push its route and its warnings, and take its
policies as the global ones if it is the first route and has policies. -/
def ImportState.addOperation (st : ImportState) (path method : String) (operation : Value) :
    ImportState :=
  let (policies, opWarnings) := extractFlowplanePolicies operation
  { routes := st.routes ++ [⟨path, [toUppercase method], operationDescription operation, policies⟩]
    warnings := st.warnings ++ opWarnings
    globalPolicies := if st.routes.isEmpty && policies.isSome then policies else st.globalPolicies }

/-- The loop over the methods of one path item. -/
def ImportState.addPathItem (st : ImportState) (path : String) (item : Value) : ImportState :=
  httpMethods.foldl (fun st method =>
    match item.get method with
    | some operation => st.addOperation path method operation
    | none => st) st

/-- The loop over the paths of a document, from empty accumulators. -/
def importPaths (paths : List (String × Value)) : ImportState :=
  paths.foldl (fun st entry => st.addPathItem entry.1 entry.2) ⟨[], [], none⟩

/-! ### What the loop computes -/

/-- The operations of a document, in the order the loop visits them: each path in turn, and under
it each method its item has. -/
def operations (paths : List (String × Value)) : List (String × String × Value) :=
  paths.flatMap fun entry => httpMethods.filterMap fun method =>
    (entry.2.get method).map fun operation => (entry.1, method, operation)

theorem operations_cons (entry : String × Value) (paths : List (String × Value)) :
    operations (entry :: paths) =
      (httpMethods.filterMap fun method => (entry.2.get method).map fun operation =>
        (entry.1, method, operation)) ++ operations paths := rfl

/-- The route the loop pushes for an operation. -/
def operationRoute (path method : String) (operation : Value) : ApiRoute :=
  ⟨path, [toUppercase method], operationDescription operation,
    (extractFlowplanePolicies operation).1⟩

namespace ImportState

/-- The invariant of the loop: the global policies are those of the first route. -/
def Coherent (st : ImportState) : Prop := st.globalPolicies = st.routes.head?.bind (·.policies)

/-- The state after some routes and warnings, with the policies of its first route. -/
def ofRoutes (routes : List ApiRoute) (warnings : List String) : ImportState :=
  ⟨routes, warnings, routes.head?.bind (·.policies)⟩

theorem coherent_ofRoutes (routes : List ApiRoute) (warnings : List String) :
    (ofRoutes routes warnings).Coherent := rfl

/-- **The step lemma**: one operation appends its route and its warnings, and the global policies
stay those of the first route. -/
theorem addOperation_eq {st : ImportState} (hst : st.Coherent) (path method : String)
    (operation : Value) :
    st.addOperation path method operation =
      ofRoutes (st.routes ++ [operationRoute path method operation])
        (st.warnings ++ (extractFlowplanePolicies operation).2) := by
  rcases st with ⟨_ | ⟨first, rest⟩, warnings, globalPolicies⟩ <;>
    simp only [Coherent, List.head?_nil, Option.bind_none, List.head?_cons, Option.bind_some]
      at hst <;>
    subst hst <;>
    simp only [addOperation, ofRoutes, operationRoute, List.nil_append, List.cons_append,
      List.isEmpty_nil, List.isEmpty_cons, List.head?_cons, Option.bind_some, Bool.true_and,
      Bool.false_and, Bool.false_eq_true, if_false]
  cases (extractFlowplanePolicies operation).1 <;> rfl

/-- **The run lemma**: the operations, in turn, from any coherent state. -/
theorem foldl_addOperation (ops : List (String × String × Value)) {st : ImportState}
    (hst : st.Coherent) :
    ops.foldl (fun st o => st.addOperation o.1 o.2.1 o.2.2) st =
      ofRoutes (st.routes ++ ops.map fun o => operationRoute o.1 o.2.1 o.2.2)
        (st.warnings ++ ops.flatMap fun o => (extractFlowplanePolicies o.2.2).2) := by
  induction ops generalizing st with
  | nil =>
      rcases st with ⟨routes, warnings, globalPolicies⟩
      simp only [Coherent] at hst
      simp [ofRoutes, hst]
  | cons o ops ih =>
      rw [List.foldl_cons, addOperation_eq hst, ih (coherent_ofRoutes _ _)]
      simp [ofRoutes]

/-- The loop over the methods of a path item visits the operations it has. -/
theorem foldl_methods (methods : List String) (st : ImportState) (path : String) (item : Value) :
    methods.foldl (fun st method =>
      match item.get method with
      | some operation => st.addOperation path method operation
      | none => st) st =
    (methods.filterMap fun method => (item.get method).map fun operation =>
      (path, method, operation)).foldl (fun st o => st.addOperation o.1 o.2.1 o.2.2) st := by
  induction methods generalizing st with
  | nil => rfl
  | cons method methods ih =>
      cases h : item.get method <;> simp [List.filterMap_cons, h, ih]

/-- The loop over the paths visits the operations of the document. -/
theorem foldl_addPathItem (paths : List (String × Value)) (st : ImportState) :
    paths.foldl (fun st entry => st.addPathItem entry.1 entry.2) st =
      (operations paths).foldl (fun st o => st.addOperation o.1 o.2.1 o.2.2) st := by
  induction paths generalizing st with
  | nil => rfl
  | cons entry paths ih =>
      rw [List.foldl_cons, ih, operations_cons, List.foldl_append, addPathItem, foldl_methods]

end ImportState

/-- The accumulators after the loop: the route of every operation of the document, their
warnings, and the policies of the first route. -/
theorem importPaths_eq (paths : List (String × Value)) : importPaths paths =
    .ofRoutes ((operations paths).map fun o => operationRoute o.1 o.2.1 o.2.2)
      ((operations paths).flatMap fun o => (extractFlowplanePolicies o.2.2).2) := by
  rw [importPaths, ImportState.foldl_addPathItem,
    @ImportState.foldl_addOperation _ ⟨[], [], none⟩ rfl]
  rfl

/-- The seven methods, with the upper-case names the routes carry. -/
theorem httpMethods_toUppercase : httpMethods.map (fun method => (method, toUppercase method)) =
    [("get", "GET"), ("post", "POST"), ("put", "PUT"), ("delete", "DELETE"), ("patch", "PATCH"),
      ("options", "OPTIONS"), ("head", "HEAD")] := by
  decide

/-- A map over the operations of a document, written out: each path in turn, and under it each
method its item has. -/
theorem map_operations {β : Type} (paths : List (String × Value))
    (g : String × String × Value → β) :
    (operations paths).map g = paths.flatMap fun entry => httpMethods.filterMap fun method =>
      (entry.2.get method).map fun operation => g (entry.1, method, operation) := by
  simp only [operations, List.map_flatMap, List.map_filterMap, Option.map_map]
  rfl

theorem flatMap_operations {β : Type} (paths : List (String × Value))
    (g : String × String × Value → List β) :
    (operations paths).flatMap g = (paths.flatMap fun entry => httpMethods.filterMap fun method =>
      (entry.2.get method).map fun operation => g (entry.1, method, operation)).flatten := by
  rw [List.flatMap, map_operations]

/-! ### The mapping and the handler -/

section Mapping

variable (parseUrl : String → Option ParsedUrl)

/-- The base path of an import without an override: the path of the first server's URL, the URL
itself if it does not parse but starts with `/`, and `/` otherwise. -/
def documentBasePath (spec : Value) : String :=
  ((serverUrl spec).bind fun url =>
    match parseUrl url with
    | some parsed => some parsed.path
    | none => if startsWith url '/' then some url else none).getD "/"

/-- The upstream of an import: the host and port of the first server's URL, and a placeholder
host otherwise; the service is always named after the import. -/
def documentUpstream (spec : Value) (name : String) : UpstreamConfig :=
  ((serverUrl spec).bind fun url => (parseUrl url).bind fun parsed => parsed.host.map fun host =>
    { service := name ++ "-backend"
      endpoints := [⟨host, parsed.port.getD (if parsed.scheme = "https" then 443 else 80), 100⟩]
      tls := parsed.scheme = "https"
      loadBalancing := "ROUND_ROBIN" }).getD
    { service := name ++ "-backend"
      endpoints := [⟨"backend.example.com", 80, 100⟩]
      tls := false
      loadBalancing := "ROUND_ROBIN" }

/-- `json!({"openapi_version": ..., "info": spec.get("info")})`. -/
def openapiMetadata (spec : Value) : Value :=
  .object (.cons "openapi_version"
    (.string (((spec.get "openapi").bind Value.asStr).getD "3.0.0"))
    (.cons "info" ((spec.get "info").getD .null) .nil (List.not_mem_nil _)) (by decide))

/-- `openapi_to_api_definition`: the definition and the warnings.  It never fails. -/
def openapiToApiDefinition (spec : Value) (name : String)
    (versionOverride basePathOverride : Option String) :
    Except ApiError (ApiDefinition × List String) :=
  let version := versionOverride.getD
    ((((spec.get "info").bind (·.get "version")).bind Value.asStr).getD "1.0.0")
  let basePath := basePathOverride.getD (documentBasePath parseUrl spec)
  let st := importPaths (documentPaths spec)
  pure (⟨name, version, basePath, documentUpstream parseUrl spec name, st.routes,
    st.globalPolicies, some (openapiMetadata spec)⟩, st.warnings)

/-- **The routes, the warnings and the global policies of an import.**  One route for every
entry of `spec.paths`, in its order, and under each path for every one of the seven methods its
item has, in the loop's order: with that path, the method in upper case and the policies the tags
of the operation give; the warnings of the operations in the same order; and the policies of the
first route as the global ones. -/
theorem openapiToApiDefinition_routes (spec : Value) (name : String)
    (versionOverride basePathOverride : Option String) :
    ∃ api warnings,
      openapiToApiDefinition parseUrl spec name versionOverride basePathOverride =
        .ok (api, warnings) ∧
      api.routes.map (fun r => (r.path, r.methods, r.policies)) =
        (((spec.get "paths").bind Value.asObject).getD []).flatMap (fun entry =>
          [("get", "GET"), ("post", "POST"), ("put", "PUT"), ("delete", "DELETE"),
            ("patch", "PATCH"), ("options", "OPTIONS"), ("head", "HEAD")].filterMap fun method =>
            (entry.2.get method.1).map fun operation =>
              (entry.1, [method.2], (extractFlowplanePolicies operation).1)) ∧
      warnings = ((((spec.get "paths").bind Value.asObject).getD []).flatMap fun entry =>
        ["get", "post", "put", "delete", "patch", "options", "head"].filterMap fun method =>
          (entry.2.get method).map fun operation => (extractFlowplanePolicies operation).2).flatten ∧
      api.policies = api.routes.head?.bind (·.policies) := by
  refine ⟨_, _, rfl, ?_, ?_, ?_⟩ <;> simp only [importPaths_eq, ImportState.ofRoutes]
  · rw [List.map_map, map_operations, ← httpMethods_toUppercase]
    simp only [List.filterMap_map]
    rfl
  · exact flatMap_operations _ _

/-- `OpenApiImportQuery`. -/
structure OpenApiImportQuery where
  name : String
  version : Option String
  basePath : Option String

/-- `OpenApiImportResponse`. -/
structure OpenApiImportResponse where
  id : String
  name : String
  version : String
  basePath : String
  upstream : UpstreamConfig
  routes : List ApiRoute
  policies : Option ApiPolicies
  metadata : Option Value
  warnings : Option (List String)
  createdAt : String

/-- `import_openapi_handler` from the parsed document on, given the identifier and the time it
draws: only a document whose `openapi` is a string starting with `3.` is imported. -/
def importOpenapiHandler (params : OpenApiImportQuery) (spec : Value) (apiId createdAt : String) :
    Except ApiError OpenApiImportResponse := do
  if !(((spec.get "openapi").bind Value.asStr).map (startsWithStr · "3.")).getD false then
    throw (.badRequest "Only OpenAPI 3.x specifications are supported")
  let (api, warnings) ←
    openapiToApiDefinition parseUrl spec params.name params.version params.basePath
  pure
    { id := apiId, name := api.name, version := api.version, basePath := api.basePath,
      upstream := api.upstream, routes := api.routes, policies := api.policies,
      metadata := api.metadata, warnings := if warnings.isEmpty then none else some warnings,
      createdAt := createdAt }

end Mapping

/-! ### The legacy endpoint -/

/-- The check `HeaderValue` of the `http` crate makes on each byte of a header value: a tab, or a
byte that is neither a control character nor `DEL`.  A character outside ASCII is encoded in
bytes of 128 and above, which all pass. -/
def isHeaderValueChar (c : Char) : Bool := c = '\t' || (32 ≤ c.toNat && c.toNat ≠ 127)

/-- What `redirect_gateway_import_handler` builds: a status and a `Location` header. -/
structure RedirectResponse where
  status : ℕ
  location : String
  deriving DecidableEq, Repr

/-- `redirect_gateway_import_handler`: a `308` to the import endpoint with the name appended as
it is.  The builder refuses a `Location` that is not a valid header value, and the `unwrap` after
it then panics; that outcome is `none`. -/
def redirectGatewayImportHandler (params : OpenApiImportQuery) : Option RedirectResponse :=
  let newLocation := "/api/v1/platform/import/openapi?name=" ++ params.name
  if newLocation.data.all isHeaderValueChar then some ⟨308, newLocation⟩ else none

/-- The redirect answers exactly for a name of valid header characters, with the name appended
to the new path unencoded. -/
theorem redirectGatewayImportHandler_eq_some_iff (params : OpenApiImportQuery)
    (response : RedirectResponse) :
    redirectGatewayImportHandler params = some response ↔
      (∀ c ∈ params.name.data, isHeaderValueChar c = true) ∧
        response = ⟨308, "/api/v1/platform/import/openapi?name=" ++ params.name⟩ := by
  have hpath : ("/api/v1/platform/import/openapi?name=".data.all isHeaderValueChar) = true := by
    decide
  simp only [redirectGatewayImportHandler, String.data_append, List.all_append, hpath,
    Bool.true_and, List.all_eq_true]
  split
  · rename_i h
    rw [Option.some.injEq]
    exact ⟨fun e => ⟨h, e.symm⟩, fun ⟨_, e⟩ => e.symm⟩
  · rename_i h
    simp [h]

/-- **A client reads the name back from a redirect that answers**, when the name holds no `&`,
`+`, `%` or `#`: the `Location` is the path of the import endpoint, with a query whose only pair
is the name. -/
theorem redirectGatewayImportHandler_location {params : OpenApiImportQuery}
    {response : RedirectResponse} (h : redirectGatewayImportHandler params = some response)
    (hname : ∀ c ∈ params.name.data, c ≠ '&' ∧ c ≠ '+' ∧ c ≠ '%' ∧ c ≠ '#') :
    response.status = 308 ∧
      (splitPathQuery response.location).1 = "/api/v1/platform/import/openapi" ∧
      parseForm (utf8Bytes (splitPathQuery response.location).2) = [("name", params.name)] := by
  obtain ⟨-, rfl⟩ := (redirectGatewayImportHandler_eq_some_iff params response).1 h
  have hlocation : "/api/v1/platform/import/openapi?name=" ++ params.name =
      "/api/v1/platform/import/openapi" ++ "?" ++ ("name" ++ "=" ++ params.name) := by
    simp only [String.append_assoc]
    rfl
  have hquery : '#' ∉ ("name" ++ "=" ++ params.name).data := by
    simpa using fun hc => (hname '#' hc).2.2.2 rfl
  rw [hlocation, splitPathQuery_append (by decide) hquery,
    parseForm_pair (by decide) fun c hc => ⟨(hname c hc).1, (hname c hc).2.1, (hname c hc).2.2.1⟩]
  exact ⟨rfl, rfl, rfl⟩

/-- The legacy import of `users-api` redirects to the import endpoint with that name. -/
theorem redirectGatewayImportHandler_location_usersApi :
    (∀ c ∈ "users-api".data, c ≠ '&' ∧ c ≠ '+' ∧ c ≠ '%' ∧ c ≠ '#') ∧
      ∃ response, redirectGatewayImportHandler ⟨"users-api", none, none⟩ = some response ∧
        response.status = 308 ∧
        (splitPathQuery response.location).1 = "/api/v1/platform/import/openapi" ∧
        parseForm (utf8Bytes (splitPathQuery response.location).2) = [("name", "users-api")] :=
  ⟨by decide, _, rfl, @redirectGatewayImportHandler_location ⟨"users-api", none, none⟩ _ rfl
    (by decide)⟩

/-- A name with a control character makes the handler panic, and a name with `&`, `+` or a
percent escape is read back from the `Location` as another name. -/
theorem redirectGatewayImportHandler_name_lost :
    redirectGatewayImportHandler ⟨"\n", none, none⟩ = none ∧
    ((redirectGatewayImportHandler ⟨"a&b", none, none⟩).map fun r =>
      parseForm (utf8Bytes (splitPathQuery r.location).2)) = some [("name", "a"), ("b", "")] ∧
    ((redirectGatewayImportHandler ⟨"a+b", none, none⟩).map fun r =>
      parseForm (utf8Bytes (splitPathQuery r.location).2)) = some [("name", "a b")] ∧
    ((redirectGatewayImportHandler ⟨"%41", none, none⟩).map fun r =>
      parseForm (utf8Bytes (splitPathQuery r.location).2)) = some [("name", "A")] := by
  decide

end Flowplane
