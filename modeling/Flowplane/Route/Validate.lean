import Flowplane.Route.Definition

/-
**What the Native route validator accepts.**

Every create and update of a route configuration starts with `validate_route_payload`
(`src/src/api/route_handlers.rs`, lines 745–880).  It runs the derived checks of the structs, then
hand-written checks of blank strings, of the actions, and of how a path match and an action may be
combined, and it returns the first failure.  This module translates it and characterises the
definitions it accepts by a declarative invariant, `Flowplane.RouteDefinition.Valid`, stated in the
words of §3 of the spec rather than as the sequence of checks the code runs.

Main definitions:

* `Flowplane.ensureValidUriTemplate` — the encoder smoke test of a URI template;
* `Flowplane.validateRouteMatch`, `Flowplane.validateRouteAction`,
  `Flowplane.validateTemplatePairing`, `Flowplane.validateRoutePayload` — the validator;
* `Flowplane.RouteActionDefinition.WellFormed`, `Flowplane.RouteRuleDefinition.Valid`,
  `Flowplane.VirtualHostDefinition.Valid`, `Flowplane.RouteDefinition.Valid` — the invariant.

Main results:

* `Flowplane.ensureValidUriTemplate_eq_ok_iff` — the smoke test rejects exactly the empty
  template, so it never fails after the blank check that precedes it;
* `Flowplane.validateRouteMatch_eq_ok_iff`, `Flowplane.validateRouteAction_eq_ok_iff`,
  `Flowplane.validateTemplatePairing_eq_ok_iff` — one characterisation per check;
* `Flowplane.validateRoutePayload_eq_ok_iff` — **the validator accepts exactly the valid
  definitions**.
-/

set_option autoImplicit false

namespace Flowplane

variable {σ : Type}

/-! ### The checks -/

/-- `validation_error`. -/
def validationError (message : String) : ApiError := .ofError (.validation message)

/-- `if cond { return Err(validation_error(message)); }`. -/
def rejectIf (cond : Bool) (message : String) : Except ApiError Unit :=
  if cond then .error (validationError message) else .ok ()

@[simp] theorem rejectIf_eq_ok_iff (cond : Bool) (message : String) :
    rejectIf cond message = .ok () ↔ cond = false := by
  cases cond <;> simp [rejectIf]

/-- The base-128 varint of protobuf. -/
def encodeVarint (n : ℕ) : List UInt8 :=
  if h : n < 128 then [n.toUInt8] else (n % 128 + 128).toUInt8 :: encodeVarint (n / 128)
termination_by n
decreasing_by omega

/-- `UriTemplateMatchConfig` of `envoy-types`: a message with one string field. -/
structure UriTemplateMatchConfig where
  pathTemplate : String

/-- `Message::encode_to_vec` of `prost` on a `UriTemplateMatchConfig`: proto3 leaves out a string
field equal to its default `""`, and writes any other as the key `0x0A` of field 1, the varint of
its length in bytes and its UTF-8 bytes. -/
def UriTemplateMatchConfig.encodeToVec (c : UriTemplateMatchConfig) : List UInt8 :=
  if c.pathTemplate = "" then []
  else 0x0A :: encodeVarint c.pathTemplate.utf8ByteSize ++ c.pathTemplate.toUTF8.toList

/-- `ensure_valid_uri_template`. -/
def ensureValidUriTemplate (template : String) : Except ApiError Unit :=
  if (UriTemplateMatchConfig.mk template).encodeToVec.isEmpty then
    .error (validationError "Invalid URI template")
  else .ok ()

/-- The check of a template, made twice by the source: refuse a blank one with `message`, then
run the encoder smoke test. -/
def validateTemplate (template message : String) : Except ApiError Unit := do
  rejectIf (isBlank template) message
  ensureValidUriTemplate template

/-- `validate_route_match`. -/
def validateRouteMatch (m : RouteMatchDefinition) : Except ApiError Unit := do
  match m.path with
  | .exact value | .prefix_ value =>
      rejectIf (isBlank value) "Route match path value must not be empty"
  | .regex value =>
      rejectIf (isBlank value) "Route match path value must not be empty"
  | .template template => validateTemplate template "Route match template must not be empty"
  rejectIf (m.headers.any fun header => isBlank header.name)
    "Header match name must not be empty"
  rejectIf (m.queryParameters.any fun param => isBlank param.name)
    "Query parameter match name must not be empty"

/-- `validate_route_action`. -/
def validateRouteAction : RouteActionDefinition σ → Except ApiError Unit
  | .forward cluster _ prefixRewrite templateRewrite => do
      rejectIf (isBlank cluster) "Forward action requires a cluster name"
      if let some p := prefixRewrite then
        rejectIf (isBlank p) "prefixRewrite must not be an empty string"
        rejectIf (!startsWith p '/') "prefixRewrite must start with a slash"
      if let some t := templateRewrite then
        validateTemplate t "templateRewrite must not be an empty string"
  | .weighted clusters _ => do
      rejectIf clusters.isEmpty "Weighted action must include at least one cluster"
      rejectIf (clusters.any fun c => isBlank c.name)
        "Weighted action cluster names must not be empty"
      rejectIf (clusters.any fun c => c.weight == 0)
        "Weighted action cluster weights must be greater than zero"
  | .redirect hostRedirect pathRedirect _ =>
      rejectIf ((hostRedirect.map isBlank).getD false || (pathRedirect.map isBlank).getD false)
        "Redirect action values must not be empty strings"

/-- The cross-field `match (&route.r#match.path, &route.action)` of `validate_route_payload`; the
arms are tried in order. -/
def validateTemplatePairing : PathMatchDefinition → RouteActionDefinition σ → Except ApiError Unit
  | .template _, .forward _ _ (some _) _ =>
      .error (validationError "Template path matches do not support prefixRewrite")
  | .template _, .forward .. => .ok ()
  | .template _, _ => .error (validationError "Template path matches require a forward action")
  | _, .forward _ _ _ (some _) =>
      .error (validationError "templateRewrite requires a template path match")
  | _, _ => .ok ()

/-- `ApiError::from(Error::from(err))` on the errors of a derived check. -/
def ofValidationErrors (errors : ValidationErrors) : ApiError := .ofError (.validationErrors errors)

/-- The checks `validate_route_payload` runs on one route rule. -/
def validateRouteRule (route : RouteRuleDefinition σ) : Except ApiError Unit := do
  route.validate.mapError ofValidationErrors
  validateRouteMatch route.«match»
  validateRouteAction route.action
  validateTemplatePairing route.«match».path route.action

/-- The checks `validate_route_payload` runs on one virtual host. -/
def validateVirtualHost (vh : VirtualHostDefinition σ) : Except ApiError Unit := do
  vh.validate.mapError ofValidationErrors
  rejectIf (vh.domains.any isBlank) "Virtual host domains must not be empty"
  vh.routes.forM validateRouteRule

/-- `validate_route_payload`. -/
def validateRoutePayload (d : RouteDefinition σ) : Except ApiError Unit := do
  d.validate.mapError ofValidationErrors
  d.virtualHosts.forM validateVirtualHost

/-! ### The invariant -/

/-- The string a path match carries: the value of `Exact`, `Prefix` and `Regex`, the template of
`Template`. -/
def PathMatchDefinition.payload : PathMatchDefinition → String
  | .exact v | .prefix_ v | .regex v => v
  | .template t => t

@[simp] theorem PathMatchDefinition.payload_exact (v : String) : (exact v).payload = v := rfl
@[simp] theorem PathMatchDefinition.payload_prefix (v : String) : (prefix_ v).payload = v := rfl
@[simp] theorem PathMatchDefinition.payload_regex (v : String) : (regex v).payload = v := rfl
@[simp] theorem PathMatchDefinition.payload_template (t : String) : (template t).payload = t :=
  rfl

/-- A well-formed action (§3): a forward action names a cluster and has non-blank rewrites, the
prefix rewrite starting with a slash; a weighted action has clusters, all named and of positive
weight; a redirect has non-blank targets. -/
def RouteActionDefinition.WellFormed : RouteActionDefinition σ → Prop
  | .forward cluster _ prefixRewrite templateRewrite =>
      ¬ Blank cluster ∧ (∀ p ∈ prefixRewrite, ¬ Blank p ∧ p.data.head? = some '/') ∧
        ∀ t ∈ templateRewrite, ¬ Blank t
  | .weighted clusters _ => clusters ≠ [] ∧ ∀ c ∈ clusters, ¬ Blank c.name ∧ 0 < c.weight
  | .redirect hostRedirect pathRedirect _ =>
      (∀ h ∈ hostRedirect, ¬ Blank h) ∧ ∀ p ∈ pathRedirect, ¬ Blank p

/-- The invariant of a route rule (§3). -/
@[mk_iff] structure RouteRuleDefinition.Valid (r : RouteRuleDefinition σ) : Prop where
  name : ∀ n ∈ r.name, 1 ≤ n.length ∧ n.length ≤ 100
  path : ¬ Blank r.«match».path.payload
  headers : ∀ h ∈ r.«match».headers, ¬ Blank h.name
  queryParameters : ∀ q ∈ r.«match».queryParameters, ¬ Blank q.name
  action : r.action.WellFormed
  /-- A template path comes only with a forward action without `prefixRewrite`. -/
  templatePath : ∀ t, r.«match».path = .template t →
    ∃ c ts tr, r.action = .forward c ts none tr
  /-- A `templateRewrite` comes only with a template path. -/
  templateRewrite : ∀ c ts pr tr, r.action = .forward c ts pr (some tr) →
    ∃ t, r.«match».path = .template t

/-- The invariant of a virtual host (§3). -/
@[mk_iff] structure VirtualHostDefinition.Valid (vh : VirtualHostDefinition σ) : Prop where
  name : 1 ≤ vh.name.length ∧ vh.name.length ≤ 100
  domains : vh.domains ≠ [] ∧ ∀ d ∈ vh.domains, ¬ Blank d
  routes : vh.routes ≠ [] ∧ ∀ r ∈ vh.routes, r.Valid

/-- The invariant of a route configuration (§3). -/
@[mk_iff] structure RouteDefinition.Valid (d : RouteDefinition σ) : Prop where
  name : 1 ≤ d.name.length ∧ d.name.length ≤ 100
  virtualHosts : d.virtualHosts ≠ [] ∧ ∀ vh ∈ d.virtualHosts, vh.Valid

/-! ### Each check against the invariant -/

/-- The encoder smoke test rejects exactly the empty template. -/
theorem ensureValidUriTemplate_eq_ok_iff (template : String) :
    ensureValidUriTemplate template = .ok () ↔ template ≠ "" := by
  by_cases h : template = "" <;>
    simp [ensureValidUriTemplate, UriTemplateMatchConfig.encodeToVec, h]

/-- The template check accepts exactly the non-blank templates: the smoke test after the blank
check never fails. -/
@[simp] theorem validateTemplate_eq_ok_iff (template message : String) :
    validateTemplate template message = .ok () ↔ ¬ Blank template := by
  by_cases h : Blank template
  · simp [validateTemplate, except_bind_unit_eq_ok, h]
  · simp [validateTemplate, except_bind_unit_eq_ok, ensureValidUriTemplate_eq_ok_iff, h,
      ne_empty_of_not_blank h]

theorem validateRouteMatch_eq_ok_iff (m : RouteMatchDefinition) :
    validateRouteMatch m = .ok () ↔ ¬ Blank m.path.payload ∧
      (∀ h ∈ m.headers, ¬ Blank h.name) ∧ ∀ q ∈ m.queryParameters, ¬ Blank q.name := by
  obtain ⟨path, headers, params⟩ := m
  cases path <;> simp [validateRouteMatch, except_bind_unit_eq_ok]

theorem validateRouteAction_eq_ok_iff (a : RouteActionDefinition σ) :
    validateRouteAction a = .ok () ↔ a.WellFormed := by
  cases a with
  | forward cluster ts pr tr =>
      cases pr <;> cases tr <;>
        simp [validateRouteAction, RouteActionDefinition.WellFormed, except_bind_unit_eq_ok,
          startsWith, pure, Except.pure, and_assoc]
  | weighted clusters tw =>
      simp [validateRouteAction, RouteActionDefinition.WellFormed, except_bind_unit_eq_ok,
        imp_and, forall_and]
  | redirect h p rc =>
      cases h <;> cases p <;>
        simp [validateRouteAction, RouteActionDefinition.WellFormed]

theorem validateTemplatePairing_eq_ok_iff (p : PathMatchDefinition) (a : RouteActionDefinition σ) :
    validateTemplatePairing p a = .ok () ↔
      (∀ t, p = .template t → ∃ c ts tr, a = .forward c ts none tr) ∧
      ∀ c ts pr tr, a = .forward c ts pr (some tr) → ∃ t, p = .template t := by
  cases p with
  | template t =>
      rcases a with ⟨c, ts, _ | pr, tr⟩ | ⟨cs, tw⟩ | ⟨h, q, rc⟩ <;> simp [validateTemplatePairing]
  | _ =>
      rcases a with ⟨c, ts, pr, _ | tr⟩ | ⟨cs, tw⟩ | ⟨h, q, rc⟩ <;> simp [validateTemplatePairing]

/-! ### The validator against the invariant -/

theorem validateRouteRule_eq_ok_iff (r : RouteRuleDefinition σ) :
    validateRouteRule r = .ok () ↔ r.Valid := by
  simp only [validateRouteRule, except_bind_unit_eq_ok, mapError_eq_ok_iff,
    RouteRuleDefinition.validate_eq_ok_iff, validateRouteMatch_eq_ok_iff,
    validateRouteAction_eq_ok_iff, validateTemplatePairing_eq_ok_iff]
  exact ⟨fun ⟨hn, ⟨hp, hh, hq⟩, ha, ht, htr⟩ => ⟨hn, hp, hh, hq, ha, ht, htr⟩,
    fun ⟨hn, hp, hh, hq, ha, ht, htr⟩ => ⟨hn, ⟨hp, hh, hq⟩, ha, ht, htr⟩⟩

theorem validateVirtualHost_eq_ok_iff (vh : VirtualHostDefinition σ) :
    validateVirtualHost vh = .ok () ↔ vh.Valid := by
  simp only [validateVirtualHost, except_bind_unit_eq_ok, mapError_eq_ok_iff,
    VirtualHostDefinition.validate_eq_ok_iff, rejectIf_eq_ok_iff, List.any_eq_false,
    isBlank_eq_true_iff, forM_eq_ok_iff, validateRouteRule_eq_ok_iff]
  exact ⟨fun ⟨⟨h1, h2, h3, h4⟩, h5, h6⟩ => ⟨⟨h1, h2⟩, ⟨h3, h5⟩, h4, h6⟩,
    fun ⟨⟨h1, h2⟩, ⟨h3, h5⟩, h4, h6⟩ => ⟨⟨h1, h2, h3, h4⟩, h5, h6⟩⟩

/-- A configuration that `validate_route_payload` accepts has only valid virtual hosts. -/
theorem validateRoutePayload_virtualHosts_valid {d : RouteDefinition σ}
    (h : validateRoutePayload d = .ok ()) : ∀ vh ∈ d.virtualHosts, vh.Valid := by
  simp only [validateRoutePayload, except_bind_unit_eq_ok, forM_eq_ok_iff,
    validateVirtualHost_eq_ok_iff] at h
  exact h.2

/-- **`validate_route_payload` accepts a route configuration exactly when it satisfies the
invariant of §3**, and checks nothing else. -/
theorem validateRoutePayload_eq_ok_iff (d : RouteDefinition σ) :
    validateRoutePayload d = .ok () ↔ d.Valid := by
  simp only [validateRoutePayload, except_bind_unit_eq_ok, mapError_eq_ok_iff,
    RouteDefinition.validate_eq_ok_iff, forM_eq_ok_iff, validateVirtualHost_eq_ok_iff]
  exact ⟨fun ⟨⟨h1, h2, h3⟩, h4⟩ => ⟨⟨h1, h2⟩, h3, h4⟩, fun ⟨⟨h1, h2⟩, h3, h4⟩ => ⟨⟨h1, h2, h3⟩, h4⟩⟩

end Flowplane
