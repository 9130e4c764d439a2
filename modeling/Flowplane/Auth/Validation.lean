import Flowplane.Basic

/-
**The checks on personal access token requests.**

`src/src/auth/validation.rs` decides which names and scopes a token may carry.  Both checks are
regular expressions: `NAME_REGEX`, `^[a-zA-Z0-9_-]{3,64}$`, and `SCOPE_REGEX`,
`^[a-z][a-z-]*:[a-z]+$`.  Their languages are stated here as properties, `Flowplane.TokenName`
and `Flowplane.ScopeSyntax`, read off the patterns, and the matchers the checks run are proved to
decide them.  The checks are run by the derived `CreateTokenRequest::validate`, which reports the
errors of every field, and by the hand-written `UpdateTokenRequest::validate`, which checks the
fields a request carries and stops at the first that fails.

Only the fields the checks read are modelled: the description, the expiry and the creator of a
token are left out.

Main definitions:

* `Flowplane.TokenName`, `Flowplane.ScopeSyntax` — the languages of `NAME_REGEX` and
  `SCOPE_REGEX`;
* `Flowplane.matchesTokenName`, `Flowplane.matchesScope` — `is_match` of the two patterns;
* `Flowplane.validateTokenName`, `Flowplane.validateScope`, `Flowplane.validateScopesList` — the
  custom checks;
* `Flowplane.CreateTokenRequest.validate`, `Flowplane.UpdateTokenRequest.validate` — the checks of
  the two requests.

Main results:

* `Flowplane.matchesTokenName_iff`, `Flowplane.matchesScope_iff` — **each matcher decides the
  language of its pattern**;
* `Flowplane.CreateTokenRequest.validate_eq_ok_iff`,
  `Flowplane.UpdateTokenRequest.validate_eq_ok_iff` — what each request check accepts, field by
  field;
* `Flowplane.UpdateTokenRequest.validate_of_name_error`, `..._of_scopes_error`,
  `..._of_status_error` — the error each check of an update reports, under its own field;
* `Flowplane.UpdateTokenRequest.validate_eq_error` — a rejected update names one field, with the
  code of the check that failed on it;
* `Flowplane.UpdateTokenRequest.validate_iff_create` — **an update accepts the name and scopes a
  create would, and an empty scope list besides**.
-/

set_option autoImplicit false

namespace Flowplane

/-! ### The two patterns -/

/-- The class `[a-zA-Z0-9_-]` of `NAME_REGEX`. -/
def isTokenNameChar (c : Char) : Bool := c.isAlphanum || c == '_' || c == '-'

/-- The language of `NAME_REGEX`: three to sixty-four characters of `[a-zA-Z0-9_-]`. -/
def TokenName (name : String) : Prop :=
  3 ≤ name.length ∧ name.length ≤ 64 ∧ ∀ c ∈ name.data, isTokenNameChar c = true

/-- `NAME_REGEX.is_match(name)`: the pattern is anchored at both ends, so the whole name is a
repetition of the class, counted in characters. -/
def matchesTokenName (name : String) : Bool :=
  3 ≤ name.length && name.length ≤ 64 && name.data.all isTokenNameChar

theorem matchesTokenName_iff (name : String) : matchesTokenName name = true ↔ TokenName name := by
  simp [matchesTokenName, TokenName, and_assoc]

instance : DecidablePred TokenName := fun name =>
  decidable_of_iff _ (matchesTokenName_iff name)

/-- The class `[a-z-]` of the resource part of `SCOPE_REGEX`. -/
def isScopeResourceChar (c : Char) : Bool := c.isLower || c == '-'

/-- The language of `SCOPE_REGEX`: a lower-case letter, lower-case letters and dashes, a colon,
and one or more lower-case letters. -/
def ScopeSyntax (scope : String) : Prop :=
  ∃ c resource action, scope.data = c :: (resource ++ ':' :: action) ∧ c.isLower = true ∧
    (∀ d ∈ resource, isScopeResourceChar d = true) ∧ action ≠ [] ∧
    ∀ d ∈ action, d.isLower = true

/-- `[a-z-]*:[a-z]+$`, the part of `SCOPE_REGEX` after its first letter.  The class has no colon,
so the first colon ends the resource. -/
def matchesScopeRest : List Char → Bool
  | [] => false
  | c :: rest =>
      if c = ':' then !rest.isEmpty && rest.all Char.isLower
      else isScopeResourceChar c && matchesScopeRest rest

/-- `SCOPE_REGEX.is_match(scope)`. -/
def matchesScope (scope : String) : Bool :=
  match scope.data with
  | [] => false
  | c :: rest => c.isLower && matchesScopeRest rest

theorem matchesScopeRest_iff (l : List Char) :
    matchesScopeRest l = true ↔ ∃ resource action, l = resource ++ ':' :: action ∧
      (∀ d ∈ resource, isScopeResourceChar d = true) ∧ action ≠ [] ∧
      ∀ d ∈ action, d.isLower = true := by
  induction l with
  | nil => simp [matchesScopeRest]
  | cons c rest ih =>
      by_cases hc : c = ':'
      · subst hc
        simp only [matchesScopeRest, if_true, Bool.and_eq_true, Bool.not_eq_true',
          List.isEmpty_eq_false, List.all_eq_true]
        constructor
        · rintro ⟨hne, hact⟩
          exact ⟨[], rest, rfl, by simp, hne, hact⟩
        · rintro ⟨_ | ⟨d, resource⟩, action, h, hres, hne, hact⟩
          · simp only [List.nil_append, List.cons.injEq, true_and] at h
            subst h
            exact ⟨hne, hact⟩
          · simp only [List.cons_append, List.cons.injEq] at h
            obtain ⟨rfl, -⟩ := h
            simp [isScopeResourceChar] at hres
      · simp only [matchesScopeRest, hc, if_false, Bool.and_eq_true, ih]
        constructor
        · rintro ⟨hcres, resource, action, rfl, hres, hne, hact⟩
          exact ⟨c :: resource, action, rfl, by simpa [hcres] using hres, hne, hact⟩
        · rintro ⟨_ | ⟨d, resource⟩, action, h, hres, hne, hact⟩
          · simp only [List.nil_append, List.cons.injEq] at h
            exact absurd h.1 hc
          · simp only [List.cons_append, List.cons.injEq] at h
            obtain ⟨rfl, rfl⟩ := h
            exact ⟨hres c (by simp), resource, action, rfl, fun e he => hres e (by simp [he]),
              hne, hact⟩

theorem matchesScope_iff (scope : String) : matchesScope scope = true ↔ ScopeSyntax scope := by
  unfold matchesScope ScopeSyntax
  split
  · rename_i h
    simp [h]
  · rename_i c rest h
    simp only [h, Bool.and_eq_true, matchesScopeRest_iff, List.cons.injEq]
    constructor
    · rintro ⟨hc, resource, action, rfl, hres, hne, hact⟩
      exact ⟨c, resource, action, ⟨rfl, rfl⟩, hc, hres, hne, hact⟩
    · rintro ⟨c, resource, action, ⟨rfl, rfl⟩, hc, hres, hne, hact⟩
      exact ⟨hc, resource, action, rfl, hres, hne, hact⟩

instance : DecidablePred ScopeSyntax := fun scope =>
  decidable_of_iff _ (matchesScope_iff scope)

/-- `name_validation_allows_valid_patterns` and `scope_validation`. -/
example : TokenName "admin-token" ∧ TokenName "A1_foo" ∧ ¬ TokenName "no" ∧
    ScopeSyntax "route-configs:write" ∧ ¬ ScopeSyntax "bad_scope" ∧ ¬ ScopeSyntax "bad-scope-" := by
  decide

/-! ### The checks -/

/-- `validate_token_name`. -/
def validateTokenName (name : String) : Except ValidationError Unit :=
  if matchesTokenName name then .ok () else .error ⟨"invalid_token_name"⟩

/-- `validate_scope`. -/
def validateScope (scope : String) : Except ValidationError Unit :=
  if matchesScope scope then .ok () else .error ⟨"invalid_scope"⟩

/-- `validate_scopes_list`: the first scope that fails. -/
def validateScopesList (scopes : List String) : Except ValidationError Unit :=
  scopes.forM validateScope

@[simp] theorem validateTokenName_eq_ok_iff (name : String) :
    validateTokenName name = .ok () ↔ TokenName name := by
  rw [← matchesTokenName_iff]
  unfold validateTokenName
  split <;> simp_all

@[simp] theorem validateScope_eq_ok_iff (scope : String) :
    validateScope scope = .ok () ↔ ScopeSyntax scope := by
  rw [← matchesScope_iff]
  unfold validateScope
  split <;> simp_all

@[simp] theorem validateScopesList_eq_ok_iff (scopes : List String) :
    validateScopesList scopes = .ok () ↔ ∀ scope ∈ scopes, ScopeSyntax scope := by
  simp [validateScopesList, forM_eq_ok_iff]

theorem validateTokenName_eq_error_iff (name : String) (err : ValidationError) :
    validateTokenName name = .error err ↔ ¬ TokenName name ∧ err = ⟨"invalid_token_name"⟩ := by
  rw [← matchesTokenName_iff]
  unfold validateTokenName
  split
  · simp_all
  · rename_i h
    simp only [Except.error.injEq, h, Bool.false_eq_true, not_false_eq_true, true_and]
    exact eq_comm

/-- `validate_scopes_list` fails on a list with a scope outside the pattern, with the code of
`validate_scope`. -/
theorem validateScopesList_eq_error_iff (scopes : List String) (err : ValidationError) :
    validateScopesList scopes = .error err ↔
      (¬ ∀ scope ∈ scopes, ScopeSyntax scope) ∧ err = ⟨"invalid_scope"⟩ := by
  rw [← validateScopesList_eq_ok_iff]
  unfold validateScopesList
  induction scopes with
  | nil => simp [forM_eq_ok_iff, pure, Except.pure]
  | cons scope scopes ih =>
      simp only [List.forM_cons']
      unfold validateScope
      split
      · simpa [except_bind_unit_eq_ok] using ih
      · simp only [except_error_bind, Except.error.injEq]
        exact ⟨by rintro rfl; exact ⟨by simp [except_bind_unit_eq_ok], rfl⟩,
          fun ⟨_, h⟩ => h.symm⟩

/-! ### The requests -/

/-- `CreateTokenRequest`, with the fields its check reads. -/
structure CreateTokenRequest where
  name : String
  scopes : List String
  deriving DecidableEq, Repr

/-- The derived `CreateTokenRequest::validate`: the custom check of the name, and the length and
the custom check of the scopes. -/
def CreateTokenRequest.validate (r : CreateTokenRequest) : Except ValidationErrors Unit :=
  validationResult (validateCustom "name" (validateTokenName r.name) ++
    validateLength "scopes" r.scopes.length (some 1) none ++
    validateCustom "scopes" (validateScopesList r.scopes))

theorem CreateTokenRequest.validate_eq_ok_iff (r : CreateTokenRequest) :
    r.validate = .ok () ↔
      TokenName r.name ∧ r.scopes ≠ [] ∧ ∀ scope ∈ r.scopes, ScopeSyntax scope := by
  simp [validate, Nat.one_le_iff_ne_zero, and_assoc]

/-- `UpdateTokenRequest`, with the fields its check reads. -/
structure UpdateTokenRequest where
  name : Option String
  status : Option String
  scopes : Option (List String)
  deriving DecidableEq, Repr

/-- The statuses `UpdateTokenRequest::validate` accepts. -/
def tokenStatuses : List String := ["active", "revoked", "expired"]

/-- `UpdateTokenRequest::validate`: the name, the scopes and the status, each if present, the
first failure reported under its field alone. -/
def UpdateTokenRequest.validate (r : UpdateTokenRequest) : Except ValidationErrors Unit := do
  if let some name := r.name then
    (validateTokenName name).mapError fun err => [("name", err)]
  if let some scopes := r.scopes then
    (validateScopesList scopes).mapError fun err => [("scopes", err)]
  if let some status := r.status then
    if !(status == "active" || status == "revoked" || status == "expired") then
      throw [("status", ⟨"invalid_status"⟩)]
  pure ()

theorem UpdateTokenRequest.validate_eq_ok_iff (r : UpdateTokenRequest) :
    r.validate = .ok () ↔ (∀ name ∈ r.name, TokenName name) ∧
      (∀ scopes ∈ r.scopes, ∀ scope ∈ scopes, ScopeSyntax scope) ∧
      ∀ status ∈ r.status, status ∈ tokenStatuses := by
  obtain ⟨name, status, scopes⟩ := r
  cases name <;> cases scopes <;> cases status <;>
    simp [validate, tokenStatuses, except_bind_unit_eq_ok, throw, throwThe, MonadExceptOf.throw,
      apply_ite (· = Except.ok ()), pure, Except.pure, or_iff_not_imp_left]

/-- A name outside the pattern stops an update at its first check, under the field `name`. -/
theorem UpdateTokenRequest.validate_of_name_error {r : UpdateTokenRequest} {name : String}
    (hname : r.name = some name) (hbad : ¬ TokenName name) :
    r.validate = .error [("name", ⟨"invalid_token_name"⟩)] := by
  obtain ⟨_, status, scopes⟩ := r
  subst hname
  simp [validate, (validateTokenName_eq_error_iff name _).2 ⟨hbad, rfl⟩, Except.mapError]

/-- Past a good name, a scope outside the pattern stops an update under the field `scopes`. -/
theorem UpdateTokenRequest.validate_of_scopes_error {r : UpdateTokenRequest}
    {scopes : List String} (hname : ∀ name ∈ r.name, TokenName name)
    (hscopes : r.scopes = some scopes) (hbad : ∃ scope ∈ scopes, ¬ ScopeSyntax scope) :
    r.validate = .error [("scopes", ⟨"invalid_scope"⟩)] := by
  obtain ⟨name, status, _⟩ := r
  subst hscopes
  have hlist : validateScopesList scopes = .error ⟨"invalid_scope"⟩ :=
    (validateScopesList_eq_error_iff scopes _).2
      ⟨fun hall => hbad.elim fun scope ⟨hs, hn⟩ => hn (hall scope hs), rfl⟩
  cases name with
  | none => simp [validate, hlist, Except.mapError]
  | some name =>
      simp [validate, hlist, Except.mapError, (validateTokenName_eq_ok_iff name).2 (hname name rfl)]

/-- Past a good name and good scopes, a status other than the three stops an update under the
field `status`. -/
theorem UpdateTokenRequest.validate_of_status_error {r : UpdateTokenRequest} {status : String}
    (hname : ∀ name ∈ r.name, TokenName name)
    (hscopes : ∀ scopes ∈ r.scopes, ∀ scope ∈ scopes, ScopeSyntax scope)
    (hstatus : r.status = some status) (hbad : status ∉ tokenStatuses) :
    r.validate = .error [("status", ⟨"invalid_status"⟩)] := by
  obtain ⟨name, _, scopes⟩ := r
  subst hstatus
  obtain ⟨hactive, hrevoked, hexpired⟩ :
      status ≠ "active" ∧ status ≠ "revoked" ∧ status ≠ "expired" := by
    simpa [tokenStatuses] using hbad
  have hname' : ∀ n, name = some n → validateTokenName n = .ok () :=
    fun n hn => (validateTokenName_eq_ok_iff n).2 (hname n hn)
  have hscopes' : ∀ l, scopes = some l → validateScopesList l = .ok () :=
    fun l hl => (validateScopesList_eq_ok_iff l).2 (hscopes l hl)
  cases name <;> cases scopes <;>
    simp [validate, hactive, hrevoked, hexpired, hname', hscopes', Except.mapError, throw,
      throwThe, MonadExceptOf.throw]

/-- **A rejected update names one field**, with the code of its check: the name, the scopes or
the status, the first of them that fails. -/
theorem UpdateTokenRequest.validate_eq_error {r : UpdateTokenRequest} {errors : ValidationErrors}
    (h : r.validate = .error errors) :
    errors = [("name", ⟨"invalid_token_name"⟩)] ∨ errors = [("scopes", ⟨"invalid_scope"⟩)] ∨
      errors = [("status", ⟨"invalid_status"⟩)] := by
  have reported : ∀ e, r.validate = .error e → errors = e :=
    fun e he => Except.error.inj (h.symm.trans he)
  by_cases hname : ∀ name ∈ r.name, TokenName name
  · by_cases hscopes : ∀ scopes ∈ r.scopes, ∀ scope ∈ scopes, ScopeSyntax scope
    · by_cases hstatus : ∀ status ∈ r.status, status ∈ tokenStatuses
      · cases h.symm.trans ((validate_eq_ok_iff r).2 ⟨hname, hscopes, hstatus⟩)
      · push_neg at hstatus
        obtain ⟨status, hst, hbad⟩ := hstatus
        exact .inr (.inr (reported _ (validate_of_status_error hname hscopes hst hbad)))
    · push_neg at hscopes
      obtain ⟨scopes, hsc, hbad⟩ := hscopes
      exact .inr (.inl (reported _ (validate_of_scopes_error hname hsc hbad)))
  · push_neg at hname
    obtain ⟨name, hn, hbad⟩ := hname
    exact .inl (reported _ (validate_of_name_error hn hbad))

example : UpdateTokenRequest.validate ⟨some "ops admin", none, some ["routes:rea d"]⟩ =
    .error [("name", ⟨"invalid_token_name"⟩)] := by
  rfl

/-! ### Updates against creates -/

/-- **An update sets a name and scopes exactly when a create would take them, or when the scopes
are empty and the name fits**: the update runs the custom checks of both fields, but not the
length check that asks a create for at least one scope. -/
theorem UpdateTokenRequest.validate_iff_create (name : String) (scopes : List String) :
    UpdateTokenRequest.validate ⟨some name, none, some scopes⟩ = .ok () ↔
      CreateTokenRequest.validate ⟨name, scopes⟩ = .ok () ∨ (TokenName name ∧ scopes = []) := by
  rw [UpdateTokenRequest.validate_eq_ok_iff, CreateTokenRequest.validate_eq_ok_iff]
  by_cases h : scopes = [] <;> simp [h]

/-- An update may leave a token without scopes, which a create refuses. -/
theorem updateTokenRequest_clears_scopes :
    UpdateTokenRequest.validate ⟨some "admin-token", none, some []⟩ = .ok () ∧
      CreateTokenRequest.validate ⟨"admin-token", []⟩ ≠ .ok () :=
  ⟨(UpdateTokenRequest.validate_iff_create _ _).2 (.inr ⟨(matchesTokenName_iff _).1 rfl, rfl⟩),
    by simp [CreateTokenRequest.validate_eq_ok_iff]⟩

end Flowplane
