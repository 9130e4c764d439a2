import Flowplane.Route.Validate

/-
**Route configurations on the wire, and the round trip through them.**

A route configuration is stored, and served to the proxies, in its xDS form (`xds::route`).  The
Native handlers convert a request into that form with `to_xds_config` before they store it, and a
stored configuration back with `from_xds_config` when they read it (`route_handlers.rs`, lines
414–668).  The conversion fails only on a weighted action without clusters; in the xDS form an
empty list of header or query-parameter matchers is written as an absent one.

Main definitions:

* `Flowplane.Xds.RouteConfig` and its parts — the xDS route types;
* `Flowplane.RouteDefinition.toXdsConfig`, `Flowplane.RouteDefinition.fromXdsConfig` — the two
  conversions, one pair per type of the model.

Main results:

* `Flowplane.RouteDefinition.toXdsConfig_eq_ok_exists_iff` — the conversion fails exactly on a
  weighted action with an empty cluster list;
* `Flowplane.RouteDefinition.fromXdsConfig_of_toXdsConfig_eq_ok` — reading back what was written
  gives the definition back, field by field;
* `Flowplane.RouteDefinition.toXdsConfig_roundtrip` — **the conversion never fails on a definition
  the validator accepts, and it is inverted by `from_xds_config`**.
-/

set_option autoImplicit false

namespace Flowplane

namespace Xds

/-- Modelled from the spec: `xds::route::PathMatch`, whose source is not among the files; the
variants `route_handlers.rs` builds and matches on. -/
inductive PathMatch where
  | exact (value : String)
  | prefix_ (value : String)
  | regex (value : String)
  | template (value : String)
  deriving DecidableEq, Repr

/-- Modelled from the spec: `xds::route::HeaderMatchConfig`, with the fields the handlers use. -/
structure HeaderMatchConfig where
  name : String
  value : Option String
  regex : Option String
  present : Option Bool
  deriving DecidableEq, Repr

/-- Modelled from the spec: `xds::route::QueryParameterMatchConfig`, with the fields the handlers
use. -/
structure QueryParameterMatchConfig where
  name : String
  value : Option String
  regex : Option String
  present : Option Bool
  deriving DecidableEq, Repr

/-- Modelled from the spec: `xds::route::RouteMatchConfig`; absent matcher lists are `None`. -/
structure RouteMatchConfig where
  path : PathMatch
  headers : Option (List HeaderMatchConfig)
  queryParameters : Option (List QueryParameterMatchConfig)
  deriving DecidableEq, Repr

/-- Modelled from the spec: `xds::route::WeightedClusterConfig`. -/
structure WeightedClusterConfig (σ : Type) where
  name : String
  weight : UInt32
  typedPerFilterConfig : List (String × σ)
  deriving DecidableEq, Repr

/-- Modelled from the spec: `xds::route::RouteActionConfig`. -/
inductive RouteActionConfig (σ : Type) where
  | cluster (name : String) (timeout : Option UInt64) (prefixRewrite : Option String)
      (pathTemplateRewrite : Option String)
  | weightedClusters (clusters : List (WeightedClusterConfig σ)) (totalWeight : Option UInt32)
  | redirect (hostRedirect : Option String) (pathRedirect : Option String)
      (responseCode : Option UInt32)
  deriving DecidableEq, Repr

/-- Modelled from the spec: `xds::route::RouteRule`. -/
structure RouteRule (σ : Type) where
  name : Option String
  «match» : RouteMatchConfig
  action : RouteActionConfig σ
  typedPerFilterConfig : List (String × σ)
  deriving DecidableEq, Repr

/-- Modelled from the spec: `xds::route::VirtualHostConfig`. -/
structure VirtualHostConfig (σ : Type) where
  name : String
  domains : List String
  routes : List (RouteRule σ)
  typedPerFilterConfig : List (String × σ)
  deriving DecidableEq, Repr

/-- Modelled from the spec: `xds::route::RouteConfig`. -/
structure RouteConfig (σ : Type) where
  name : String
  virtualHosts : List (VirtualHostConfig σ)
  deriving DecidableEq, Repr

end Xds

variable {σ : Type}

/-! ### The conversions -/

/-- `PathMatchDefinition::to_xds_config`. -/
def PathMatchDefinition.toXdsConfig : PathMatchDefinition → Xds.PathMatch
  | .exact value => .exact value
  | .prefix_ value => .prefix_ value
  | .regex value => .regex value
  | .template t => .template t

/-- `PathMatchDefinition::from_xds_config`. -/
def PathMatchDefinition.fromXdsConfig : Xds.PathMatch → PathMatchDefinition
  | .exact value => .exact value
  | .prefix_ value => .prefix_ value
  | .regex value => .regex value
  | .template value => .template value

/-- `HeaderMatchDefinition::to_xds_config`. -/
def HeaderMatchDefinition.toXdsConfig (h : HeaderMatchDefinition) : Xds.HeaderMatchConfig :=
  { name := h.name, value := h.value, regex := h.regex, present := h.present }

/-- `HeaderMatchDefinition::from_xds_config`. -/
def HeaderMatchDefinition.fromXdsConfig (c : Xds.HeaderMatchConfig) : HeaderMatchDefinition :=
  { name := c.name, value := c.value, regex := c.regex, present := c.present }

/-- `QueryParameterMatchDefinition::to_xds_config`. -/
def QueryParameterMatchDefinition.toXdsConfig (q : QueryParameterMatchDefinition) :
    Xds.QueryParameterMatchConfig :=
  { name := q.name, value := q.value, regex := q.regex, present := q.present }

/-- `QueryParameterMatchDefinition::from_xds_config`. -/
def QueryParameterMatchDefinition.fromXdsConfig (c : Xds.QueryParameterMatchConfig) :
    QueryParameterMatchDefinition :=
  { name := c.name, value := c.value, regex := c.regex, present := c.present }

/-- `RouteMatchDefinition::to_xds_config`: an empty matcher list is written as `None`. -/
def RouteMatchDefinition.toXdsConfig (m : RouteMatchDefinition) :
    Except ApiError Xds.RouteMatchConfig :=
  let headers := if m.headers.isEmpty then none
    else some (m.headers.map HeaderMatchDefinition.toXdsConfig)
  let queryParameters := if m.queryParameters.isEmpty then none
    else some (m.queryParameters.map QueryParameterMatchDefinition.toXdsConfig)
  .ok { path := m.path.toXdsConfig, headers := headers, queryParameters := queryParameters }

/-- `RouteMatchDefinition::from_xds_config`: an absent matcher list is read as empty. -/
def RouteMatchDefinition.fromXdsConfig (c : Xds.RouteMatchConfig) : RouteMatchDefinition :=
  { path := PathMatchDefinition.fromXdsConfig c.path,
    headers := (c.headers.getD []).map HeaderMatchDefinition.fromXdsConfig,
    queryParameters := (c.queryParameters.getD []).map QueryParameterMatchDefinition.fromXdsConfig }

/-- `RouteActionDefinition::to_xds_config`. -/
def RouteActionDefinition.toXdsConfig : RouteActionDefinition σ →
    Except ApiError (Xds.RouteActionConfig σ)
  | .forward cluster timeoutSeconds prefixRewrite templateRewrite =>
      .ok (.cluster cluster timeoutSeconds prefixRewrite templateRewrite)
  | .weighted clusters totalWeight =>
      if clusters.isEmpty then
        .error (.ofError (.validation "Weighted route must include at least one cluster"))
      else
        .ok (.weightedClusters (clusters.map fun c =>
          { name := c.name, weight := c.weight, typedPerFilterConfig := c.typedPerFilterConfig })
          totalWeight)
  | .redirect hostRedirect pathRedirect responseCode =>
      .ok (.redirect hostRedirect pathRedirect responseCode)

/-- `RouteActionDefinition::from_xds_config`. -/
def RouteActionDefinition.fromXdsConfig : Xds.RouteActionConfig σ → RouteActionDefinition σ
  | .cluster name timeout prefixRewrite pathTemplateRewrite =>
      .forward name timeout prefixRewrite pathTemplateRewrite
  | .weightedClusters clusters totalWeight =>
      .weighted (clusters.map fun c =>
        { name := c.name, weight := c.weight, typedPerFilterConfig := c.typedPerFilterConfig })
        totalWeight
  | .redirect hostRedirect pathRedirect responseCode =>
      .redirect hostRedirect pathRedirect responseCode

/-- `RouteRuleDefinition::to_xds_config`. -/
def RouteRuleDefinition.toXdsConfig (r : RouteRuleDefinition σ) :
    Except ApiError (Xds.RouteRule σ) := do
  let m ← r.«match».toXdsConfig
  let action ← r.action.toXdsConfig
  pure
    { name := r.name, «match» := m, action := action,
      typedPerFilterConfig := r.typedPerFilterConfig }

/-- `RouteRuleDefinition::from_xds_config`. -/
def RouteRuleDefinition.fromXdsConfig (c : Xds.RouteRule σ) : RouteRuleDefinition σ :=
  { name := c.name, «match» := RouteMatchDefinition.fromXdsConfig c.«match»,
    action := RouteActionDefinition.fromXdsConfig c.action,
    typedPerFilterConfig := c.typedPerFilterConfig }

/-- `VirtualHostDefinition::to_xds_config`. -/
def VirtualHostDefinition.toXdsConfig (vh : VirtualHostDefinition σ) :
    Except ApiError (Xds.VirtualHostConfig σ) := do
  let routes ← vh.routes.mapM RouteRuleDefinition.toXdsConfig
  pure
    { name := vh.name, domains := vh.domains, routes := routes,
      typedPerFilterConfig := vh.typedPerFilterConfig }

/-- `VirtualHostDefinition::from_xds_config`. -/
def VirtualHostDefinition.fromXdsConfig (c : Xds.VirtualHostConfig σ) : VirtualHostDefinition σ :=
  { name := c.name, domains := c.domains, routes := c.routes.map RouteRuleDefinition.fromXdsConfig,
    typedPerFilterConfig := c.typedPerFilterConfig }

/-- `RouteDefinition::to_xds_config`. -/
def RouteDefinition.toXdsConfig (d : RouteDefinition σ) : Except ApiError (Xds.RouteConfig σ) := do
  let virtualHosts ← d.virtualHosts.mapM VirtualHostDefinition.toXdsConfig
  pure { name := d.name, virtualHosts := virtualHosts }

/-- `RouteDefinition::from_xds_config`. -/
def RouteDefinition.fromXdsConfig (c : Xds.RouteConfig σ) : RouteDefinition σ :=
  { name := c.name, virtualHosts := c.virtualHosts.map VirtualHostDefinition.fromXdsConfig }

/-! ### Each conversion is inverted by its reading -/

@[simp] theorem PathMatchDefinition.fromXdsConfig_toXdsConfig (p : PathMatchDefinition) :
    fromXdsConfig p.toXdsConfig = p := by
  cases p <;> rfl

@[simp] theorem HeaderMatchDefinition.fromXdsConfig_toXdsConfig (h : HeaderMatchDefinition) :
    fromXdsConfig h.toXdsConfig = h := rfl

@[simp] theorem QueryParameterMatchDefinition.fromXdsConfig_toXdsConfig
    (q : QueryParameterMatchDefinition) : fromXdsConfig q.toXdsConfig = q := rfl

theorem RouteMatchDefinition.toXdsConfig_ne_error (m : RouteMatchDefinition) (e : ApiError) :
    m.toXdsConfig ≠ .error e := by
  simp [toXdsConfig]

/-- The empty matcher lists, written as `None`, are read back as empty. -/
theorem RouteMatchDefinition.fromXdsConfig_of_toXdsConfig_eq_ok {m : RouteMatchDefinition}
    {c : Xds.RouteMatchConfig} (h : m.toXdsConfig = .ok c) : fromXdsConfig c = m := by
  simp only [toXdsConfig, Except.ok.injEq] at h
  subst h
  obtain ⟨p, hs, qs⟩ := m
  cases hs <;> cases qs <;> simp [fromXdsConfig, Function.comp_def]

theorem RouteActionDefinition.toXdsConfig_eq_ok_exists_iff (a : RouteActionDefinition σ) :
    (∃ c, a.toXdsConfig = .ok c) ↔ ∀ tw, a ≠ .weighted [] tw := by
  rcases a with _ | ⟨_ | ⟨w, cs⟩, tw⟩ | _ <;> simp [toXdsConfig]

theorem RouteActionDefinition.fromXdsConfig_of_toXdsConfig_eq_ok {a : RouteActionDefinition σ}
    {c : Xds.RouteActionConfig σ} (h : a.toXdsConfig = .ok c) : fromXdsConfig c = a := by
  rcases a with _ | ⟨_ | ⟨w, cs⟩, tw⟩ | _ <;> simp [toXdsConfig] at h <;> subst h <;>
    simp [fromXdsConfig, Function.comp_def]

theorem RouteRuleDefinition.toXdsConfig_eq_ok_exists_iff (r : RouteRuleDefinition σ) :
    (∃ c, r.toXdsConfig = .ok c) ↔ ∀ tw, r.action ≠ .weighted [] tw := by
  rw [← RouteActionDefinition.toXdsConfig_eq_ok_exists_iff]
  cases hm : r.«match».toXdsConfig with
  | error e => exact absurd hm (RouteMatchDefinition.toXdsConfig_ne_error _ e)
  | ok m =>
      cases ha : r.action.toXdsConfig <;>
        simp [toXdsConfig, hm, ha, bind, Except.bind, pure, Except.pure]

theorem RouteRuleDefinition.fromXdsConfig_of_toXdsConfig_eq_ok {r : RouteRuleDefinition σ}
    {c : Xds.RouteRule σ} (h : r.toXdsConfig = .ok c) : fromXdsConfig c = r := by
  simp only [toXdsConfig, except_bind_eq_ok, pure, Except.pure, Except.ok.injEq] at h
  obtain ⟨m, hm, a, ha, rfl⟩ := h
  simp [fromXdsConfig, RouteMatchDefinition.fromXdsConfig_of_toXdsConfig_eq_ok hm,
    RouteActionDefinition.fromXdsConfig_of_toXdsConfig_eq_ok ha]

theorem VirtualHostDefinition.toXdsConfig_eq_ok_exists_iff (vh : VirtualHostDefinition σ) :
    (∃ c, vh.toXdsConfig = .ok c) ↔ ∀ r ∈ vh.routes, ∀ tw, r.action ≠ .weighted [] tw := by
  simp only [← RouteRuleDefinition.toXdsConfig_eq_ok_exists_iff, ← mapM_eq_ok_exists_iff,
    toXdsConfig, except_bind_eq_ok, pure, Except.pure]
  exact ⟨fun ⟨_, rs, h, _⟩ => ⟨rs, h⟩, fun ⟨rs, h⟩ => ⟨_, rs, h, rfl⟩⟩

theorem VirtualHostDefinition.fromXdsConfig_of_toXdsConfig_eq_ok
    {vh : VirtualHostDefinition σ} {c : Xds.VirtualHostConfig σ} (h : vh.toXdsConfig = .ok c) :
    fromXdsConfig c = vh := by
  simp only [toXdsConfig, except_bind_eq_ok, pure, Except.pure, Except.ok.injEq] at h
  obtain ⟨rs, hrs, rfl⟩ := h
  have := map_eq_of_mapM_eq_ok
    (fun r _ c hc => RouteRuleDefinition.fromXdsConfig_of_toXdsConfig_eq_ok hc) hrs
  simp [fromXdsConfig, this]

/-- The conversion fails exactly on a weighted action with an empty cluster list. -/
theorem RouteDefinition.toXdsConfig_eq_ok_exists_iff (d : RouteDefinition σ) :
    (∃ c, d.toXdsConfig = .ok c) ↔
      ∀ vh ∈ d.virtualHosts, ∀ r ∈ vh.routes, ∀ tw, r.action ≠ .weighted [] tw := by
  simp only [← VirtualHostDefinition.toXdsConfig_eq_ok_exists_iff, ← mapM_eq_ok_exists_iff,
    toXdsConfig, except_bind_eq_ok, pure, Except.pure]
  exact ⟨fun ⟨_, vs, h, _⟩ => ⟨vs, h⟩, fun ⟨vs, h⟩ => ⟨_, vs, h, rfl⟩⟩

/-- Reading back what was written gives the definition back, field by field. -/
theorem RouteDefinition.fromXdsConfig_of_toXdsConfig_eq_ok {d : RouteDefinition σ}
    {c : Xds.RouteConfig σ} (h : d.toXdsConfig = .ok c) : fromXdsConfig c = d := by
  simp only [toXdsConfig, except_bind_eq_ok, pure, Except.pure, Except.ok.injEq] at h
  obtain ⟨vs, hvs, rfl⟩ := h
  have := map_eq_of_mapM_eq_ok
    (fun vh _ c hc => VirtualHostDefinition.fromXdsConfig_of_toXdsConfig_eq_ok hc) hvs
  simp [fromXdsConfig, this]

/-- A definition the validator accepts has no weighted action without clusters. -/
theorem VirtualHostDefinition.Valid.no_empty_weighted {vh : VirtualHostDefinition σ}
    (hvh : vh.Valid) : ∀ r ∈ vh.routes, ∀ tw, r.action ≠ .weighted [] tw := by
  intro r hr tw hw
  have := (hvh.routes.2 r hr).action
  rw [hw] at this
  exact this.1 rfl

/-- **The round trip of a route configuration through its xDS form.**  The conversion fails exactly
when some route rule has a weighted action with no cluster, hence never on a definition that
`validate_route_payload` accepts, and when it succeeds `from_xds_config` gives the definition back,
field by field: names and domains, every path match and action with its optional fields, the
matchers (an empty list being written as `None`), the weighted clusters and every scoped filter
configuration. -/
theorem RouteDefinition.toXdsConfig_roundtrip (d : RouteDefinition σ) :
    ((∃ c, d.toXdsConfig = .ok c) ↔
      ∀ vh ∈ d.virtualHosts, ∀ r ∈ vh.routes, ∀ tw, r.action ≠ .weighted [] tw) ∧
    (validateRoutePayload d = .ok () → ∃ c, d.toXdsConfig = .ok c) ∧
    ∀ c, d.toXdsConfig = .ok c → fromXdsConfig c = d :=
  ⟨d.toXdsConfig_eq_ok_exists_iff,
    fun h => d.toXdsConfig_eq_ok_exists_iff.2 fun vh hvh =>
      (validateRoutePayload_virtualHosts_valid h vh hvh).no_empty_weighted,
    fun _ h => fromXdsConfig_of_toXdsConfig_eq_ok h⟩

end Flowplane
