import Flowplane.Basic

/-
**Route configurations of the Native API.**

`src/src/api/route_handlers.rs` accepts a route configuration as a `RouteDefinition`: a name and
a list of virtual hosts, each with domains and an ordered list of route rules, and each rule a
match on the request (path, headers, query parameters) and an action (forward to a cluster, split
over weighted clusters, or redirect).  This module gives the data model and the checks that the
`#[derive(Validate)]` attributes of these structs generate.

The scoped filter configurations (`HashMap<String, HttpScopedConfig>`, at virtual-host, route
and weighted-cluster level) are only ever cloned by the route code, so the model is parametric in
the type `σ` of one configuration and keeps a map as its list of entries.

Main definitions:

* `Flowplane.PathMatchDefinition`, `Flowplane.RouteMatchDefinition`,
  `Flowplane.RouteActionDefinition`, `Flowplane.RouteRuleDefinition`,
  `Flowplane.VirtualHostDefinition`, `Flowplane.RouteDefinition` — the request model;
* `Flowplane.RouteDefinition.validate`, `Flowplane.VirtualHostDefinition.validate`,
  `Flowplane.RouteRuleDefinition.validate` — the derived checks.

Main results:

* `Flowplane.RouteDefinition.validate_eq_ok_iff`,
  `Flowplane.VirtualHostDefinition.validate_eq_ok_iff`,
  `Flowplane.RouteRuleDefinition.validate_eq_ok_iff` — what each derived check accepts.
-/

set_option autoImplicit false

namespace Flowplane

/-! ### The request model -/

/-- `PathMatchDefinition`; the variant `Prefix` is named `prefix_`, `prefix` being a keyword. -/
inductive PathMatchDefinition where
  | exact (value : String)
  | prefix_ (value : String)
  | regex (value : String)
  | template (template : String)
  deriving DecidableEq, Repr

/-- `HeaderMatchDefinition`. -/
structure HeaderMatchDefinition where
  name : String
  value : Option String
  regex : Option String
  present : Option Bool
  deriving DecidableEq, Repr

/-- `QueryParameterMatchDefinition`. -/
structure QueryParameterMatchDefinition where
  name : String
  value : Option String
  regex : Option String
  present : Option Bool
  deriving DecidableEq, Repr

/-- `RouteMatchDefinition`. -/
structure RouteMatchDefinition where
  path : PathMatchDefinition
  headers : List HeaderMatchDefinition
  queryParameters : List QueryParameterMatchDefinition
  deriving DecidableEq, Repr

/-- `WeightedClusterDefinition`. -/
structure WeightedClusterDefinition (σ : Type) where
  name : String
  weight : UInt32
  typedPerFilterConfig : List (String × σ)
  deriving DecidableEq, Repr

/-- `RouteActionDefinition`. -/
inductive RouteActionDefinition (σ : Type) where
  | forward (cluster : String) (timeoutSeconds : Option UInt64) (prefixRewrite : Option String)
      (templateRewrite : Option String)
  | weighted (clusters : List (WeightedClusterDefinition σ)) (totalWeight : Option UInt32)
  | redirect (hostRedirect : Option String) (pathRedirect : Option String)
      (responseCode : Option UInt32)
  deriving DecidableEq, Repr

/-- `RouteRuleDefinition`; the field `r#match` is `«match»`. -/
structure RouteRuleDefinition (σ : Type) where
  name : Option String
  «match» : RouteMatchDefinition
  action : RouteActionDefinition σ
  typedPerFilterConfig : List (String × σ)
  deriving DecidableEq, Repr

/-- `VirtualHostDefinition`. -/
structure VirtualHostDefinition (σ : Type) where
  name : String
  domains : List String
  routes : List (RouteRuleDefinition σ)
  typedPerFilterConfig : List (String × σ)
  deriving DecidableEq, Repr

/-- `RouteDefinition`: the body of a create or update request. -/
structure RouteDefinition (σ : Type) where
  name : String
  virtualHosts : List (VirtualHostDefinition σ)
  deriving DecidableEq, Repr

/-! ### The derived checks -/

variable {σ : Type}

/-- The derived `RouteDefinition::validate`. -/
def RouteDefinition.validate (d : RouteDefinition σ) : Except ValidationErrors Unit :=
  validationResult (validateLength "name" d.name.length (some 1) (some 100) ++
    validateLength "virtual_hosts" d.virtualHosts.length (some 1) none)

/-- The derived `VirtualHostDefinition::validate`. -/
def VirtualHostDefinition.validate (vh : VirtualHostDefinition σ) : Except ValidationErrors Unit :=
  validationResult (validateLength "name" vh.name.length (some 1) (some 100) ++
    validateLength "domains" vh.domains.length (some 1) none ++
    validateLength "routes" vh.routes.length (some 1) none)

/-- The derived `RouteMatchDefinition::validate`: the struct carries no check. -/
def RouteMatchDefinition.validationErrors (_ : RouteMatchDefinition) : ValidationErrors := []

/-- The derived `RouteRuleDefinition::validate`: the optional `name` is measured only when
present, and `#[validate(nested)]` adds the errors of the match. -/
def RouteRuleDefinition.validate (r : RouteRuleDefinition σ) : Except ValidationErrors Unit :=
  validationResult ((r.name.map fun n => validateLength "name" n.length (some 1) (some 100)).getD []
    ++ r.«match».validationErrors)

theorem RouteDefinition.validate_eq_ok_iff (d : RouteDefinition σ) :
    d.validate = .ok () ↔ 1 ≤ d.name.length ∧ d.name.length ≤ 100 ∧ d.virtualHosts ≠ [] := by
  simp [validate, Nat.one_le_iff_ne_zero, and_assoc]

theorem VirtualHostDefinition.validate_eq_ok_iff (vh : VirtualHostDefinition σ) :
    vh.validate = .ok () ↔ 1 ≤ vh.name.length ∧ vh.name.length ≤ 100 ∧ vh.domains ≠ [] ∧
      vh.routes ≠ [] := by
  simp [validate, Nat.one_le_iff_ne_zero, and_assoc]

theorem RouteRuleDefinition.validate_eq_ok_iff (r : RouteRuleDefinition σ) :
    r.validate = .ok () ↔ ∀ n ∈ r.name, 1 ≤ n.length ∧ n.length ≤ 100 := by
  cases h : r.name <;> simp [validate, h, RouteMatchDefinition.validationErrors]

end Flowplane
