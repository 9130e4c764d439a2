import Flowplane.Auth.Router

/-
**An API behind the router.**

Every handler of `build_router` (`src/src/api/routes.rs`) sits behind the same two layers:
`authenticate` for the whole router, and `ensure_scopes` with the scopes of its own route.  This
module says once what that means for any API whose handlers are steps of a state.  A call goes
through the layers of the route its method and path select, and reaches its handler only when
they let it through.

So a run of calls through the router is the run of the handlers on the calls the layers admit.
When only the writes of an API change its state, and every write lists one scope, only a caller
holding that scope changes the state.

Main definitions:

* `Flowplane.serve`, `Flowplane.runServed` — a call through the router to a handler, and a run of
  calls;
* `Flowplane.admits` — the layers let a call through.

Main results:

* `Flowplane.serve_snd` — a call is the step of its handler when the layers admit it, and changes
  nothing otherwise;
* `Flowplane.runServed_eq_foldl` — **a run through the router is the run of the handlers on the
  admitted calls**;
* `Flowplane.runServed_of_no_scope` — **only a caller holding the scope of the writes changes the
  state**.
-/

set_option autoImplicit false

namespace Flowplane

section Serve

variable {S Req Rep : Type}
variable (authService : String → Except AuthError AuthContext) (describe : AuthError → String)
variable (method : Req → Method) (path : Req → String)
variable (step : S → Req → Except ApiError Rep × S)

/-- A call through `build_router`: the layers of the route its method and path select, then the
handler, which sees the state only when the layers let the call through.  `none` is a call that
no route serves, which axum's fallback answers. -/
def serve (st : S) (authorization : Option String) (request : Req) :
    Option (Except ApiError Rep × S) :=
  (findRoute (method request) (path request)).map fun route =>
    match authorizeRoute authService describe route ⟨method request, authorization⟩ with
    | .error e => (.error e, st)
    | .ok _ => step st request

/-- The layers of the route a call takes let it through. -/
def admits (authorization : Option String) (request : Req) : Bool :=
  match findRoute (method request) (path request) with
  | some route => (authorizeRoute authService describe route ⟨method request, authorization⟩).toBool
  | none => false

/-- A run of calls through the router, each an `Authorization` header and a request. -/
def runServed (st : S) (calls : List (Option String × Req)) : S :=
  calls.foldl (fun st call =>
    ((serve authService describe method path step st call.1 call.2).map Prod.snd).getD st) st

end Serve

section Runs

variable {S Req Rep : Type}
variable {authService : String → Except AuthError AuthContext} {describe : AuthError → String}
variable {method : Req → Method} {path : Req → String}
variable {step : S → Req → Except ApiError Rep × S}

/-- **One call through the router**: the step of its handler when the layers admit it, and no
change otherwise. -/
theorem serve_snd {request : Req} (hrouted : (findRoute (method request) (path request)).isSome)
    (st : S) (authorization : Option String) :
    (serve authService describe method path step st authorization request).map Prod.snd =
      some (if admits authService describe method path authorization request then
        (step st request).2 else st) := by
  obtain ⟨route, hroute⟩ := Option.isSome_iff_exists.1 hrouted
  simp only [serve, admits, hroute, Option.map_some']
  cases authorizeRoute authService describe route ⟨method request, authorization⟩ <;> rfl

/-- **A run through the router is the run of the handlers on the admitted calls.** -/
theorem runServed_eq_foldl (hrouted : ∀ request, (findRoute (method request) (path request)).isSome)
    (st : S) (calls : List (Option String × Req)) :
    runServed authService describe method path step st calls =
      (calls.filter fun call => admits authService describe method path call.1 call.2).foldl
        (fun st call => (step st call.2).2) st := by
  induction calls generalizing st with
  | nil => rfl
  | cons call calls ih =>
      simp only [runServed, List.foldl_cons, serve_snd (hrouted call.2), Option.getD_some]
        at ih ⊢
      rw [ih, List.filter_cons]
      by_cases h : admits authService describe method path call.1 call.2 <;> simp [h]

/-- A call the layers admit carries a token that authenticates and holds every scope of its
route. -/
theorem scopes_of_admits {authorization : Option String} {request : Req}
    (h : admits authService describe method path authorization request = true) :
    ∃ route context, findRoute (method request) (path request) = some route ∧
      authService (authorization.getD "") = .ok context ∧
      ∀ scope ∈ route.scopes, scope ∈ context.scopes := by
  unfold admits at h
  split at h
  · rename_i route hroute
    obtain ⟨hmem, hmethod, -⟩ := findRoute_eq_some hroute
    obtain ⟨result, hresult⟩ := (except_toBool_eq_true_iff _).1 h
    obtain ⟨context, -, hauth, hall⟩ :=
      (authorizeRoute_eq_ok_iff authService describe hmem hmethod.symm result).1 hresult
    exact ⟨route, context, hroute, hauth, hall⟩
  · cases h

/-- **Only a caller holding the scope of the writes changes the state**: when reads change nothing
and every route of a write lists `scope`, a run of calls whose tokens never hold it leaves the
state as it was. -/
theorem runServed_of_no_scope {scope : String}
    (hrouted : ∀ request, (findRoute (method request) (path request)).isSome)
    (hread : ∀ st request, method request = .get → (step st request).2 = st)
    (hwrite : ∀ request route, findRoute (method request) (path request) = some route →
      method request ≠ .get → scope ∈ route.scopes)
    (st : S) {calls : List (Option String × Req)}
    (hcalls : ∀ call ∈ calls, ∀ context, authService (call.1.getD "") = .ok context →
      scope ∉ context.scopes) :
    runServed authService describe method path step st calls = st := by
  rw [runServed_eq_foldl hrouted]
  induction calls with
  | nil => rfl
  | cons call calls ih =>
      have hcalls' := fun c hc => hcalls c (List.mem_cons_of_mem call hc)
      rw [List.filter_cons]
      split
      · rename_i hadmits
        obtain ⟨route, context, hroute, hauth, hall⟩ := scopes_of_admits hadmits
        have hget : method call.2 = .get := by
          by_contra hne
          exact hcalls call (List.mem_cons_self _ _) context hauth
            (hall _ (hwrite _ _ hroute hne))
        rw [List.foldl_cons, hread st call.2 hget]
        exact ih hcalls'
      · exact ih hcalls'

end Runs

end Flowplane
