import Mathlib.Data.List.Count
import Flowplane.Platform.ApiDefinition

/-
**The `x-flowplane-*` tags of an OpenAPI operation.**

An operation of an imported OpenAPI document may carry policies as vendor extensions:
`x-flowplane-ratelimit`, `x-flowplane-jwt-auth` and `x-flowplane-cors`.
`extract_flowplane_policies` (`src/src/api/platform_openapi_handlers.rs`) reads each of them into
the corresponding field of an `ApiPolicies` and warns about every other key that starts with
`x-flowplane-`.

The three tags are read with different care.  The JWT and CORS tags always give a policy, with
defaults for what is missing.  The rate-limit tag gives a policy only when `requests` is an
integer and `interval` a string; a tag whose `requests` is not an integer gives a warning, but a
tag whose `requests` is an integer and whose `interval` is missing gives neither, and the tag is
dropped without a word.  The integers are `u64` in the document and `u32` in the policies, so a
count of requests or a CORS `maxAge` of `2 ^ 32` or more is taken modulo `2 ^ 32`.

Main definitions:

* `Flowplane.rateLimitOfTag`, `Flowplane.authenticationOfTag`, `Flowplane.corsOfTag` — the
  reading of each known tag;
* `Flowplane.unknownTagWarnings` — the warnings about the other tags;
* `Flowplane.extractFlowplanePolicies` — `extract_flowplane_policies`.

Main results:

* `Flowplane.extractFlowplanePolicies_rateLimit` — what a rate-limit tag gives, in each case;
* `Flowplane.extractFlowplanePolicies_authentication`, `Flowplane.extractFlowplanePolicies_cors`
  — the JWT and CORS tags always give their policy;
* `Flowplane.count_unknownTagWarning_extractFlowplanePolicies` — **every unknown tag is warned
  about exactly once, and no known tag is**;
* `Flowplane.extractFlowplanePolicies_drops_rateLimit` — a rate-limit tag without an interval
  leaves no trace.
-/

set_option autoImplicit false

namespace Flowplane

/-! ### Reading the tags -/

/-- The tags `extract_flowplane_policies` reads. -/
def knownTags : List String := ["x-flowplane-ratelimit", "x-flowplane-jwt-auth", "x-flowplane-cors"]

/-- The warning about a rate-limit tag whose `requests` is not an integer. -/
def invalidRateLimitWarning : String := "Invalid x-flowplane-ratelimit format"

/-- The warning about a tag that is not known. -/
def unknownTagWarning (key : String) : String := "Unknown flowplane tag: " ++ key

/-- The block of `extract_flowplane_policies` that reads an `x-flowplane-ratelimit` tag. -/
def rateLimitOfTag (rateLimit : Value) : Option RateLimitPolicy × List String :=
  match (rateLimit.get "requests").bind Value.asU64 with
  | some requests =>
      (((rateLimit.get "interval").bind Value.asStr).map fun interval =>
        ⟨requests.toUInt32, interval, (rateLimit.get "keyBy").bind Value.asStr⟩, [])
  | none => (none, [invalidRateLimitWarning])

/-- `json!({"issuer": auth.get("issuer"), "audience": auth.get("audience")})`: a missing field is
`null`. -/
def jwtConfig (auth : Value) : Value :=
  .object (.cons "issuer" ((auth.get "issuer").getD .null)
    (.cons "audience" ((auth.get "audience").getD .null) .nil (List.not_mem_nil _)) (by decide))

/-- The block that reads an `x-flowplane-jwt-auth` tag: `required` defaults to true. -/
def authenticationOfTag (auth : Value) : AuthenticationPolicy :=
  ⟨"jwt", ((auth.get "required").bind Value.asBool).getD true, some (jwtConfig auth)⟩

/-- The reading of the three lists of a CORS tag: the strings of the array under `key`, or the
default when there is no array. -/
def stringsOr (v : Value) (key : String) (default : List String) : List String :=
  (((v.get key).bind Value.asArray).map fun arr => arr.filterMap Value.asStr).getD default

/-- The block that reads an `x-flowplane-cors` tag. -/
def corsOfTag (cors : Value) : CorsPolicy :=
  { origins := stringsOr cors "origins" ["*"]
    methods := stringsOr cors "methods" ["GET", "POST"]
    headers := stringsOr cors "headers" ["Content-Type", "Authorization"]
    allowCredentials := ((cors.get "allowCredentials").bind Value.asBool).getD false
    maxAge := ((cors.get "maxAge").bind Value.asU64).map UInt64.toUInt32 }

/-- The test of the loop over the keys of an operation: a tag of the family that is not known. -/
def isUnknownTag (key : String) : Bool := startsWithStr key "x-flowplane-" && key ∉ knownTags

/-- The loop of `extract_flowplane_policies` over the keys of the operation. -/
def unknownTagWarnings (operation : Value) : List String :=
  operation.entries.filterMap fun entry =>
    if isUnknownTag entry.1 then some (unknownTagWarning entry.1) else none

/-- `extract_flowplane_policies`: the policies of an operation, if any tag gave one, and the
warnings. -/
def extractFlowplanePolicies (operation : Value) : Option ApiPolicies × List String :=
  let (rateLimit, rateLimitWarnings) :=
    ((operation.get "x-flowplane-ratelimit").map rateLimitOfTag).getD (none, [])
  let authentication := (operation.get "x-flowplane-jwt-auth").map authenticationOfTag
  let cors := (operation.get "x-flowplane-cors").map corsOfTag
  (if rateLimit.isSome || authentication.isSome || cors.isSome then
      some ⟨rateLimit, authentication, none, cors, none, none, none⟩
    else none,
    rateLimitWarnings ++ unknownTagWarnings operation)

/-! ### The policies -/

/-- The policies of an operation carry exactly what each tag gives, and there are policies as
soon as one tag gives one. -/
theorem extractFlowplanePolicies_fst (operation : Value) :
    (extractFlowplanePolicies operation).1 =
      let rateLimit := (operation.get "x-flowplane-ratelimit").bind fun t => (rateLimitOfTag t).1
      let authentication := (operation.get "x-flowplane-jwt-auth").map authenticationOfTag
      let cors := (operation.get "x-flowplane-cors").map corsOfTag
      if rateLimit.isSome || authentication.isSome || cors.isSome then
        some ⟨rateLimit, authentication, none, cors, none, none, none⟩
      else none := by
  simp only [extractFlowplanePolicies]
  cases operation.get "x-flowplane-ratelimit" <;> rfl

/-- The warnings of an operation: the one about its rate-limit tag, then those about its unknown
tags. -/
theorem extractFlowplanePolicies_snd (operation : Value) :
    (extractFlowplanePolicies operation).2 =
      ((operation.get "x-flowplane-ratelimit").map fun t => (rateLimitOfTag t).2).getD [] ++
        unknownTagWarnings operation := by
  simp only [extractFlowplanePolicies]
  cases operation.get "x-flowplane-ratelimit" <;> rfl

/-- The policies keep the rate limit read from the tag: when it is missing, so may be the whole
record. -/
theorem extractFlowplanePolicies_fst_bind_rateLimit (operation : Value) :
    (extractFlowplanePolicies operation).1.bind (·.rateLimit) =
      (operation.get "x-flowplane-ratelimit").bind fun t => (rateLimitOfTag t).1 := by
  rw [extractFlowplanePolicies_fst]
  cases (operation.get "x-flowplane-ratelimit").bind fun t => (rateLimitOfTag t).1 <;> simp

/-- The warning about a rate-limit tag is not about an unknown tag. -/
theorem invalidRateLimitWarning_ne_unknownTagWarning (key : String) :
    invalidRateLimitWarning ≠ unknownTagWarning key := by
  intro h
  have := congrArg (fun s => s.data.head?) h
  simp [invalidRateLimitWarning, unknownTagWarning, String.data_append] at this

/-- The warnings about unknown tags: one per unknown key of the operation, in iteration order. -/
theorem unknownTagWarnings_eq (operation : Value) :
    unknownTagWarnings operation =
      ((operation.entries.map Prod.fst).filter isUnknownTag).map unknownTagWarning := by
  simp only [unknownTagWarnings]
  induction operation.entries with
  | nil => rfl
  | cons entry rest ih =>
      by_cases hk : isUnknownTag entry.1 <;> simp [List.filterMap_cons, hk, ih]

/-- **What a rate-limit tag gives.**  A policy exactly when `requests` is an integer and
`interval` a string, with the count of requests taken modulo `2 ^ 32`; the warning exactly when
`requests` is not an integer. -/
theorem extractFlowplanePolicies_rateLimit (operation rateLimit : Value)
    (h : operation.get "x-flowplane-ratelimit" = some rateLimit) :
    ((extractFlowplanePolicies operation).1.bind (·.rateLimit) =
      ((rateLimit.get "requests").bind Value.asU64).bind fun requests =>
        ((rateLimit.get "interval").bind Value.asStr).map fun interval =>
          ⟨requests.toUInt32, interval, (rateLimit.get "keyBy").bind Value.asStr⟩) ∧
    (invalidRateLimitWarning ∈ (extractFlowplanePolicies operation).2 ↔
      (rateLimit.get "requests").bind Value.asU64 = none) := by
  rw [extractFlowplanePolicies_fst_bind_rateLimit, extractFlowplanePolicies_snd, h,
    unknownTagWarnings_eq]
  have unknown : invalidRateLimitWarning ∉
      ((operation.entries.map Prod.fst).filter isUnknownTag).map unknownTagWarning := by
    simp only [List.mem_map, not_exists, not_and]
    exact fun key _ => (invalidRateLimitWarning_ne_unknownTagWarning key).symm
  simp only [Option.bind_some, Option.map_some', Option.getD_some, List.mem_append, unknown,
    or_false, rateLimitOfTag]
  rcases hr : (rateLimit.get "requests").bind Value.asU64 with _ | requests <;> simp [hr]

/-- A JWT tag always gives its policy, whatever else it holds. -/
theorem extractFlowplanePolicies_authentication (operation auth : Value)
    (h : operation.get "x-flowplane-jwt-auth" = some auth) :
    (extractFlowplanePolicies operation).1.bind (·.authentication) =
      some (authenticationOfTag auth) := by
  rw [extractFlowplanePolicies_fst, h]
  simp

/-- A CORS tag always gives its policy, whatever else it holds. -/
theorem extractFlowplanePolicies_cors (operation cors : Value)
    (h : operation.get "x-flowplane-cors" = some cors) :
    (extractFlowplanePolicies operation).1.bind (·.cors) = some (corsOfTag cors) := by
  rw [extractFlowplanePolicies_fst, h]
  simp

/-- A rate-limit tag with an integer count of requests and no interval gives neither a policy nor
a warning, and a count of `2 ^ 32 + 100` requests becomes 100. -/
theorem extractFlowplanePolicies_drops_rateLimit :
    extractFlowplanePolicies (.singleton "x-flowplane-ratelimit"
      (.singleton "requests" (.number (.posInt 100)))) = (none, []) ∧
    ((extractFlowplanePolicies (.singleton "x-flowplane-ratelimit"
      (.object (.cons "requests" (.number (.posInt 4294967396))
        (.cons "interval" (.string "1m") .nil (List.not_mem_nil _)) (by decide))))).1.bind
      (·.rateLimit)).map (·.requests) = some 100 :=
  ⟨rfl, rfl⟩

/-! ### The warnings -/

theorem unknownTagWarning_injective : Function.Injective unknownTagWarning := by
  intro a b h
  have := congrArg String.data h
  simp only [unknownTagWarning, String.data_append, List.append_cancel_left_eq] at this
  exact String.ext this

/-- The rate-limit block warns about nothing else. -/
theorem eq_invalidRateLimitWarning_of_mem_rateLimitOfTag {rateLimit : Value} {w : String}
    (h : w ∈ (rateLimitOfTag rateLimit).2) : w = invalidRateLimitWarning := by
  simp only [rateLimitOfTag] at h
  split at h <;> simp_all

/-- The test of the loop is a prefix test and a look-up in the three known tags. -/
theorem isUnknownTag_iff (key : String) :
    isUnknownTag key = true ↔ (∃ rest, key = "x-flowplane-" ++ rest) ∧ key ∉ knownTags := by
  simp [isUnknownTag, startsWithStr_iff]

/-- The warnings about one key: one if it is an unknown tag of the operation, none otherwise. -/
theorem count_unknownTagWarning_eq (operation : Value) (key : String) :
    (extractFlowplanePolicies operation).2.count (unknownTagWarning key) =
      if key ∈ operation.entries.map Prod.fst ∧ isUnknownTag key then 1 else 0 := by
  have rateLimitWarnings : List.count (unknownTagWarning key)
      (((operation.get "x-flowplane-ratelimit").map fun t => (rateLimitOfTag t).2).getD []) =
        0 := by
    cases operation.get "x-flowplane-ratelimit" with
    | none => rfl
    | some t =>
        exact List.count_eq_zero_of_not_mem fun hw => invalidRateLimitWarning_ne_unknownTagWarning
          key (eq_invalidRateLimitWarning_of_mem_rateLimitOfTag hw).symm
  rw [extractFlowplanePolicies_snd, unknownTagWarnings_eq, List.count_append, rateLimitWarnings,
    Nat.zero_add, List.count_map_of_injective _ _ unknownTagWarning_injective]
  by_cases hk : isUnknownTag key
  · rw [List.count_filter hk]
    by_cases hmem : key ∈ operation.entries.map Prod.fst
    · simp [hk, hmem, List.count_eq_one_of_mem operation.nodup_entries_keys hmem]
    · simp [hk, hmem, List.count_eq_zero_of_not_mem hmem]
  · simp [hk, List.count_eq_zero_of_not_mem (show key ∉ _ from fun h => hk (List.of_mem_filter h))]

/-- **Every unknown tag of an operation is warned about exactly once, and nothing else is**: the
warning `Unknown flowplane tag: {key}` appears once for a key of the operation that starts with
`x-flowplane-` and is none of the three tags read, and not at all otherwise. -/
theorem count_unknownTagWarning_extractFlowplanePolicies (operation : Value) (key : String) :
    (extractFlowplanePolicies operation).2.count ("Unknown flowplane tag: " ++ key) =
      if key ∈ operation.entries.map Prod.fst ∧ (∃ rest, key = "x-flowplane-" ++ rest) ∧
          key ∉ ["x-flowplane-ratelimit", "x-flowplane-jwt-auth", "x-flowplane-cors"] then 1
      else 0 :=
  (count_unknownTagWarning_eq operation key).trans
    (if_congr (and_congr_right fun _ => isUnknownTag_iff key) rfl rfl)

end Flowplane
