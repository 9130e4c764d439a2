import Mathlib.Data.String.Basic
import Mathlib.Data.List.Nodup
import Mathlib.Data.List.Infix

/-
**The Rust primitives the API layer of Flowplane is written with.**

The handlers of `src/src/api` lean on a handful of library functions whose exact meaning decides
what the validators accept: `str::trim`, which strips *Unicode* white space and not only ASCII,
`str::starts_with`, the `length` and `range` checks that `#[derive(Validate)]` generates, and the
`?` that propagates the first `Err` of a loop.  This module fixes their meaning once, so that the
later modules state their results over these definitions and never reopen them.

Main definitions:

* `Flowplane.isWhitespace`, `Flowplane.trim`, `Flowplane.isBlank` — `char::is_whitespace`,
  `str::trim` and the test `s.trim().is_empty()`;
* `Flowplane.Blank` — a string of white space only, the property that test decides;
* `Flowplane.validateLength`, `Flowplane.validateRange`, `Flowplane.validationResult` — the two
  built-in checks of the `validator` crate and the result a derived `validate()` returns;
* `Flowplane.Error`, `Flowplane.ApiError` — the error types the modelled handlers return.

Main results:

* `Flowplane.isBlank_eq_true_iff` — `s.trim().is_empty()` holds exactly when `s` is blank;
* `Flowplane.startsWithStr_iff`, `Flowplane.endsWithStr_iff`, `Flowplane.containsStr_iff` —
  `starts_with`, `ends_with` and `contains` are the prefix, suffix and infix relations;
* `Flowplane.forM_eq_ok_iff` — a loop of fallible checks succeeds exactly when every check does;
* `Flowplane.mapM_eq_ok_exists_iff`, `Flowplane.map_eq_of_mapM_eq_ok` — the same for a fallible
  `collect::<Result<Vec<_>, _>>()`, and how to invert it elementwise.
-/

set_option autoImplicit false

namespace Flowplane

/-! ### Strings -/

/-- `char::is_whitespace`: the Unicode `White_Space` property. -/
def isWhitespace (c : Char) : Bool :=
  let n := c.toNat
  (0x09 ≤ n && n ≤ 0x0D) || n == 0x20 || n == 0x85 || n == 0xA0 || n == 0x1680 ||
    (0x2000 ≤ n && n ≤ 0x200A) || n == 0x2028 || n == 0x2029 || n == 0x202F || n == 0x205F ||
    n == 0x3000

/-- `str::trim`: the string without its leading and trailing white space. -/
def trim (s : String) : String :=
  ⟨((s.data.dropWhile isWhitespace).reverse.dropWhile isWhitespace).reverse⟩

/-- `s.trim().is_empty()`. -/
def isBlank (s : String) : Bool := (trim s).data.isEmpty

/-- `s.starts_with(c)` for a character pattern. -/
def startsWith (s : String) (c : Char) : Bool := s.data.head? == some c

/-- `s.starts_with(p)` for a string pattern. -/
def startsWithStr (s p : String) : Bool := p.data.isPrefixOf s.data

/-- `s.ends_with(p)` for a string pattern. -/
def endsWithStr (s p : String) : Bool := p.data.isSuffixOf s.data

/-- `s.contains(p)` for a string pattern. -/
def containsStr (s p : String) : Bool := s.data.tails.any p.data.isPrefixOf

/-- The rounds of `trim_end_matches` on characters: each drops one copy of `p` from the end of
`l`, as long as `p` is not empty and `l` ends with it. -/
def dropSuffixes (p : List Char) : ℕ → List Char → List Char
  | 0, l => l
  | fuel + 1, l =>
      if p ≠ [] ∧ p.isSuffixOf l then dropSuffixes p fuel (l.take (l.length - p.length)) else l

/-- `s.trim_end_matches(p)`: `s` without every copy of `p` at its end.  A round drops at least one
character, so as many rounds as `s` has characters are enough. -/
def trimEndMatches (s p : String) : String := ⟨dropSuffixes p.data s.data.length s.data⟩

/-- `str::to_uppercase`, for the ASCII text it is applied to. -/
def toUppercase (s : String) : String := ⟨s.data.map Char.toUpper⟩

/-- A string of white space only, the empty string included. -/
def Blank (s : String) : Prop := ∀ c ∈ s.data, isWhitespace c = true

instance (s : String) : Decidable (Blank s) :=
  inferInstanceAs (Decidable (∀ c ∈ s.data, isWhitespace c = true))

/-- **`s.trim().is_empty()` decides blankness.** -/
@[simp] theorem isBlank_eq_true_iff (s : String) : isBlank s = true ↔ Blank s := by
  have key : ∀ l : List Char, (∀ c ∈ l.dropWhile isWhitespace, isWhitespace c = true) ↔
      l.dropWhile isWhitespace = [] := by
    intro l
    refine ⟨fun h => ?_, fun h => by simp [h]⟩
    cases hd : l.dropWhile isWhitespace with
    | nil => rfl
    | cons c t =>
        have hc := List.head_dropWhile_not isWhitespace l (by simp [hd])
        simp only [hd, List.head_cons] at hc
        simp [hd] at h
        simp [h.1] at hc
  simp only [isBlank, trim, List.isEmpty_iff, List.reverse_eq_nil_iff, List.dropWhile_eq_nil_iff,
    List.mem_reverse, Blank]
  rw [key, List.dropWhile_eq_nil_iff]

@[simp] theorem isBlank_eq_false_iff (s : String) : isBlank s = false ↔ ¬ Blank s := by
  rw [← isBlank_eq_true_iff, Bool.not_eq_true]

/-- A string that is not blank is not empty. -/
theorem ne_empty_of_not_blank {s : String} (h : ¬ Blank s) : s ≠ "" := by
  rintro rfl
  exact h (by simp [Blank])

/-- **`starts_with`, `ends_with` and `contains` are the prefix, suffix and infix relations of
strings**, stated on `++` so that the later modules can write them without these matchers. -/
theorem startsWithStr_iff (s p : String) : startsWithStr s p = true ↔ ∃ rest, s = p ++ rest := by
  simp only [startsWithStr, List.isPrefixOf_iff_prefix, List.IsPrefix, String.ext_iff,
    String.data_append]
  exact ⟨fun ⟨t, ht⟩ => ⟨⟨t⟩, ht.symm⟩, fun ⟨rest, h⟩ => ⟨rest.data, h.symm⟩⟩

/-- Whether a string starts with another is decided by `starts_with`. -/
instance decidablePrefix (s p : String) : Decidable (∃ rest, s = p ++ rest) :=
  decidable_of_iff _ (startsWithStr_iff s p)

theorem endsWithStr_iff (s p : String) : endsWithStr s p = true ↔ ∃ front, s = front ++ p := by
  simp only [endsWithStr, List.isSuffixOf_iff_suffix, List.IsSuffix, String.ext_iff,
    String.data_append]
  exact ⟨fun ⟨t, ht⟩ => ⟨⟨t⟩, ht.symm⟩, fun ⟨front, h⟩ => ⟨front.data, h.symm⟩⟩

/-- `contains` looks for `p` at the front of every tail, so it finds `p` anywhere. -/
theorem containsStr_iff (s p : String) :
    containsStr s p = true ↔ ∃ front back, s = front ++ p ++ back := by
  simp only [containsStr, List.any_eq_true, List.mem_tails, List.isPrefixOf_iff_prefix]
  rw [exists_congr fun _ => and_comm, ← List.infix_iff_prefix_suffix]
  simp only [List.IsInfix, String.ext_iff, String.data_append]
  exact ⟨fun ⟨a, b, h⟩ => ⟨⟨a⟩, ⟨b⟩, h.symm⟩, fun ⟨a, b, h⟩ => ⟨a.data, b.data, h.symm⟩⟩

/-! ### Lists -/

theorem forall_mem_and_const_iff {α : Type} {l : List α} {P : α → Prop} {S : Prop} (h : l ≠ []) :
    (∀ a ∈ l, P a ∧ S) ↔ S ∧ ∀ a ∈ l, P a := by
  obtain ⟨a, ha⟩ := List.exists_mem_of_ne_nil l h
  exact ⟨fun H => ⟨(H a ha).2, fun b hb => (H b hb).1⟩, fun ⟨hS, H⟩ b hb => ⟨H b hb, hS⟩⟩

/-! ### Machine integers -/

@[simp] theorem uint32_pos_iff_ne_zero (w : UInt32) : 0 < w ↔ w ≠ 0 := by
  rw [UInt32.lt_def, Ne, UInt32.ext_iff, BitVec.lt_def]
  simp [UInt32.toNat]
  omega

/-- Widening a `u32` to `u64` and casting it back loses nothing. -/
@[simp] theorem uint32_toUInt64_toUInt32 (x : UInt32) : x.toUInt64.toUInt32 = x := by
  apply UInt32.ext
  simp [Nat.mod_eq_of_lt x.toNat_lt]

/-- A cast of a `u64` to `u32` and back loses nothing when the value fits in 32 bits. -/
theorem uint64_toUInt32_toUInt64 (x : UInt64) (h : x.toNat < 2 ^ 32) :
    x.toUInt32.toUInt64 = x := by
  apply UInt64.ext
  simp [Nat.mod_eq_of_lt (show x.toNat < 4294967296 from h)]

/-- Rounding a `u64` down to a multiple of 1000 by division and multiplication cannot wrap. -/
theorem uint64_div_mul_toNat (ms : UInt64) :
    (ms / 1000 * 1000).toNat = 1000 * (ms.toNat / 1000) := by
  have h := ms.toNat_lt
  simp only [UInt64.toNat_mul, UInt64.toNat_div, UInt64.toNat_ofNat]
  simp [UInt64.size]
  omega

/-- Multiplying a `u64` by 1000 and dividing by 1000 gives it back when the product does not
wrap. -/
theorem uint64_mul_div (s : UInt64) (h : s.toNat * 1000 < 2 ^ 64) : s * 1000 / 1000 = s := by
  apply UInt64.ext
  simp only [UInt64.toNat_div, UInt64.toNat_mul]
  simp [UInt64.size]
  omega

/-! ### The `validator` crate -/

/-- A failed check of the `validator` crate, named by its `code`. -/
structure ValidationError where
  code : String
  deriving DecidableEq, Repr

/-- `validator::ValidationErrors`: the failed checks of a struct, each under its field's name. -/
abbrev ValidationErrors := List (String × ValidationError)

/-- `#[validate(length(min = .., max = ..))]` on a field of length `len`; a `String` is measured in
characters, a `Vec` in elements. -/
def validateLength (field : String) (len : ℕ) (min max : Option ℕ) : ValidationErrors :=
  if min.all (· ≤ len) && max.all (len ≤ ·) then [] else [(field, ⟨"length"⟩)]

/-- `#[validate(range(min = .., max = ..))]` on a numeric field of value `v`. -/
def validateRange (field : String) (v : ℕ) (min max : Option ℕ) : ValidationErrors :=
  if min.all (· ≤ v) && max.all (v ≤ ·) then [] else [(field, ⟨"range"⟩)]

/-- `#[validate(custom(function = ..))]` on a field: the error the function returned, under the
field's name. -/
def validateCustom (field : String) : Except ValidationError Unit → ValidationErrors
  | .ok () => []
  | .error err => [(field, err)]

/-- What a derived `validate()` returns once all of its checks have run. -/
def validationResult : ValidationErrors → Except ValidationErrors Unit
  | [] => .ok ()
  | errors => .error errors

@[simp] theorem validateLength_eq_nil_iff (field : String) (len : ℕ) (min max : Option ℕ) :
    validateLength field len min max = [] ↔ (∀ m ∈ min, m ≤ len) ∧ (∀ m ∈ max, len ≤ m) := by
  cases min <;> cases max <;> simp [validateLength]

@[simp] theorem validateRange_eq_nil_iff (field : String) (v : ℕ) (min max : Option ℕ) :
    validateRange field v min max = [] ↔ (∀ m ∈ min, m ≤ v) ∧ (∀ m ∈ max, v ≤ m) := by
  cases min <;> cases max <;> simp [validateRange]

@[simp] theorem validateCustom_eq_nil_iff (field : String) (result : Except ValidationError Unit) :
    validateCustom field result = [] ↔ result = .ok () := by
  rcases result with _ | ⟨⟩ <;> simp [validateCustom]

@[simp] theorem validationResult_eq_ok_iff (errors : ValidationErrors) :
    validationResult errors = .ok () ↔ errors = [] := by
  cases errors <;> simp [validationResult]

/-! ### Errors -/

/-- Modelled from the spec: the core error type `crate::errors::Error`, whose source is not among
the files.  Of its kinds (§7) the modelled code raises validation errors (a message of a handler,
or the field errors of a derived check, `Error::from(ValidationErrors)`), and the repository the
two failures of §4.B, each with the name or id it looked for. -/
inductive Error where
  | validation (message : String)
  | validationErrors (errors : ValidationErrors)
  | notFound (key : String)
  | conflict (key : String)
  deriving DecidableEq, Repr

/-- Modelled from the spec: `api::error::ApiError`, whose source is not among the files; the
variants the modelled handlers build by name, and `ApiError::from(Error)`. -/
inductive ApiError where
  | badRequest (message : String)
  | notFound (message : String)
  | conflict (message : String)
  | serviceUnavailable (message : String)
  | unauthorized (message : String)
  | forbidden (message : String)
  | ofError (error : Error)
  deriving DecidableEq, Repr

/-! ### `Result` and `?` -/

theorem except_bind_eq_ok {ε α β : Type} (x : Except ε α) (f : α → Except ε β) (b : β) :
    x >>= f = .ok b ↔ ∃ a, x = .ok a ∧ f a = .ok b := by
  cases x <;> simp [bind, Except.bind]

/-- `?` on an `Err` returns it. -/
@[simp] theorem except_error_bind {ε α β : Type} (e : ε) (f : α → Except ε β) :
    (Except.error e : Except ε α) >>= f = .error e := rfl

/-- `?` on an `Ok` goes on with its value. -/
@[simp] theorem except_ok_bind {ε α β : Type} (a : α) (f : α → Except ε β) :
    (Except.ok a : Except ε α) >>= f = f a := rfl

theorem except_bind_eq_error {ε α β : Type} (x : Except ε α) (f : α → Except ε β) (e : ε) :
    x >>= f = .error e ↔ x = .error e ∨ ∃ a, x = .ok a ∧ f a = .error e := by
  cases x <;> simp [bind, Except.bind]

theorem except_bind_unit_eq_ok {ε β : Type} (x : Except ε Unit) (f : Unit → Except ε β) (b : β) :
    x >>= f = .ok b ↔ x = .ok () ∧ f () = .ok b := by
  rw [except_bind_eq_ok]
  exact ⟨fun ⟨(), h⟩ => h, fun h => ⟨(), h⟩⟩

@[simp] theorem mapError_eq_ok_iff {ε ε' α : Type} (f : ε → ε') (x : Except ε α) (a : α) :
    x.mapError f = .ok a ↔ x = .ok a := by
  cases x <;> simp [Except.mapError]

@[simp] theorem mapError_eq_error_iff {ε ε' α : Type} (f : ε → ε') (x : Except ε α) (e : ε') :
    x.mapError f = .error e ↔ ∃ e₀, x = .error e₀ ∧ f e₀ = e := by
  cases x <;> simp [Except.mapError]

@[simp] theorem except_map_eq_ok_iff {ε α β : Type} (f : α → β) (x : Except ε α) (b : β) :
    x.map f = .ok b ↔ ∃ a, x = .ok a ∧ f a = b := by
  cases x <;> simp [Except.map]

@[simp] theorem except_map_eq_error_iff {ε α β : Type} (f : α → β) (x : Except ε α) (e : ε) :
    x.map f = .error e ↔ x = .error e := by
  cases x <;> simp [Except.map]

theorem except_toBool_eq_true_iff {ε α : Type} (x : Except ε α) :
    x.toBool = true ↔ ∃ a, x = .ok a := by
  cases x <;> simp [Except.toBool]

/-- **A `for` loop of fallible checks succeeds exactly when every check does.** -/
theorem forM_eq_ok_iff {ε α : Type} (l : List α) (f : α → Except ε Unit) :
    l.forM f = .ok () ↔ ∀ a ∈ l, f a = .ok () := by
  induction l with
  | nil => simp [pure, Except.pure]
  | cons a l ih => simp [except_bind_unit_eq_ok, ih]

/-- A fallible `collect` succeeds exactly when every element converts. -/
theorem mapM_eq_ok_exists_iff {ε α β : Type} (f : α → Except ε β) (l : List α) :
    (∃ bs, l.mapM f = .ok bs) ↔ ∀ a ∈ l, ∃ b, f a = .ok b := by
  induction l with
  | nil => exact iff_of_true ⟨[], rfl⟩ (by simp)
  | cons a l ih =>
      simp only [List.mapM_cons, except_bind_eq_ok, List.mem_cons, forall_eq_or_imp, ← ih]
      constructor
      · rintro ⟨bs, b, hb, bs', hbs', -⟩
        exact ⟨⟨b, hb⟩, bs', hbs'⟩
      · rintro ⟨⟨b, hb⟩, bs', hbs'⟩
        exact ⟨b :: bs', b, hb, bs', hbs', rfl⟩

/-- A map that inverts every successful conversion inverts a successful `collect`. -/
theorem map_eq_of_mapM_eq_ok {ε α β : Type} {f : α → Except ε β} {g : β → α} {l : List α}
    {bs : List β} (hg : ∀ a ∈ l, ∀ b, f a = .ok b → g b = a) (h : l.mapM f = .ok bs) :
    bs.map g = l := by
  induction l generalizing bs with
  | nil =>
      rw [List.mapM_nil] at h
      cases h
      rfl
  | cons a l ih =>
      simp only [List.mapM_cons, except_bind_eq_ok, pure, Except.pure] at h
      obtain ⟨b, hb, bs', hbs', h⟩ := h
      cases h
      simp [hg a (by simp) b hb, ih (fun a' ha' => hg a' (by simp [ha'])) hbs']

end Flowplane
