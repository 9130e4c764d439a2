import Flowplane.Basic

/-
**JSON documents, as `serde_json` represents them.**

The OpenAPI importer (`src/src/api/platform_openapi_handlers.rs`) reads a parsed document of type
`serde_json::Value` through `get`, `as_str`, `as_u64`, `as_bool`, `as_array` and `as_object`, and
iterates over the entries of its maps.  What an import produces depends on two facts about those
maps that a list of pairs would not keep: the entries come in one fixed iteration order, and no
key occurs twice.  Here a map is a list of entries indexed by its keys, and an entry can only be
added under a key that is not already present, so a map with a repeated key cannot be built.

The transformers build values too, with `json!` and with `value[key] = new`.  Both insert into a
map: a key already present takes the new value in its place, and a new key is added after the
others.

Main definitions:

* `Flowplane.Number`, `Flowplane.Value`, `Flowplane.Entries` — `serde_json::Number`,
  `serde_json::Value` and `serde_json::Map<String, Value>`;
* `Flowplane.Entries.toList`, `Flowplane.Entries.get` — iterating over a map and looking a key up;
* `Flowplane.Value.get`, `Flowplane.Value.asStr`, `Flowplane.Value.asU64`, `Flowplane.Value.asBool`,
  `Flowplane.Value.asArray`, `Flowplane.Value.asObject` — the accessors of `serde_json::Value`;
* `Flowplane.JsonObject.insert`, `Flowplane.Value.ofList` — `Map::insert`, and the object a
  `json!` literal builds.

Main results:

* `Flowplane.Entries.map_fst_toList`, `Flowplane.Entries.nodup_keys` — the iteration visits the
  keys of the index, each once;
* `Flowplane.Entries.get_eq_some_iff` — looking a key up finds exactly the entry the iteration
  visits under that key;
* `Flowplane.JsonObject.get_insert`, `Flowplane.Value.get_ofList` — a lookup in a built object
  finds the last value inserted under its key.
-/

set_option autoImplicit false

namespace Flowplane

/-- `serde_json::Number`: an integer that fits `u64`, a negative integer, or a float. -/
inductive Number where
  | posInt (n : UInt64)
  | negInt (n : Int) (neg : n < 0)
  | float (f : Float)

mutual

/-- `serde_json::Value`. -/
inductive Value where
  | null
  | bool (b : Bool)
  | number (n : Number)
  | string (s : String)
  | array (elems : List Value)
  | object {keys : List String} (entries : Entries keys)

/-- `serde_json::Map<String, Value>`, in its iteration order and indexed by its keys. -/
inductive Entries : List String → Type where
  | nil : Entries []
  | cons {keys : List String} (key : String) (value : Value) (rest : Entries keys)
      (fresh : key ∉ keys) : Entries (key :: keys)

end

namespace Entries

/-- The entries of a map in iteration order. -/
def toList {keys : List String} : Entries keys → List (String × Value)
  | .nil => []
  | .cons key value rest _ => (key, value) :: rest.toList

/-- `Map::get`. -/
def get {keys : List String} : Entries keys → String → Option Value
  | .nil, _ => none
  | .cons key value rest _, k => if k = key then some value else rest.get k

@[simp] theorem toList_nil : (Entries.nil).toList = [] := rfl

@[simp] theorem toList_cons {keys : List String} (key : String) (value : Value)
    (rest : Entries keys) (fresh : key ∉ keys) :
    (Entries.cons key value rest fresh).toList = (key, value) :: rest.toList := rfl

/-- The iteration visits the keys of the index, in order. -/
@[simp] theorem map_fst_toList : {keys : List String} → (m : Entries keys) →
    m.toList.map Prod.fst = keys
  | _, .nil => rfl
  | _, .cons key value rest _ => by simp [map_fst_toList rest]

/-- **The keys of a map are distinct.** -/
theorem nodup_keys : {keys : List String} → Entries keys → keys.Nodup
  | _, .nil => List.nodup_nil
  | _, .cons _ _ rest fresh => List.nodup_cons.2 ⟨fresh, nodup_keys rest⟩

theorem mem_keys_of_mem_toList {keys : List String} (m : Entries keys) {k : String} {v : Value}
    (h : (k, v) ∈ m.toList) : k ∈ keys := by
  rw [← m.map_fst_toList]
  exact List.mem_map_of_mem Prod.fst h

/-- Looking a key up finds exactly the entry the iteration visits under it. -/
theorem get_eq_some_iff : {keys : List String} → (m : Entries keys) → (k : String) →
    (v : Value) → (m.get k = some v ↔ (k, v) ∈ m.toList)
  | _, .nil, _, _ => by simp [get]
  | _, .cons key value rest fresh, k, v => by
      by_cases hk : k = key
      · subst hk
        have : (k, v) ∉ rest.toList := fun h => fresh (rest.mem_keys_of_mem_toList h)
        simp [get, this, eq_comm]
      · simp [get, hk, get_eq_some_iff rest k v]

theorem get_eq_none_of_not_mem : {keys : List String} → (m : Entries keys) → {k : String} →
    k ∉ keys → m.get k = none
  | _, .nil, _, _ => rfl
  | _, .cons key _ rest _, _, h => by
      rw [List.mem_cons, not_or] at h
      simp only [get, if_neg h.1, rest.get_eq_none_of_not_mem h.2]

/-- Replaces the value of a key already present, in its place. -/
def set : {keys : List String} → Entries keys → String → Value → Entries keys
  | _, .nil, _, _ => .nil
  | _, .cons key value rest fresh, k, v =>
      if k = key then .cons key v rest fresh else .cons key value (rest.set k v) fresh

/-- Adds an entry under a new key, after the others. -/
def snoc : {keys : List String} → Entries keys → (k : String) → Value → k ∉ keys →
    Entries (keys ++ [k])
  | _, .nil, k, v, _ => .cons k v .nil (List.not_mem_nil _)
  | _, .cons key value rest fresh, k, v, h =>
      .cons key value (rest.snoc k v fun hk => h (List.mem_cons_of_mem key hk))
        fun hm => (List.mem_append.1 hm).elim fresh fun e =>
          h (by rw [List.mem_singleton.1 e]; exact List.mem_cons_self k _)

theorem get_set : {keys : List String} → (m : Entries keys) → {k : String} → k ∈ keys →
    (k' : String) → (v : Value) → (m.set k v).get k' = if k' = k then some v else m.get k'
  | _, .nil, _, h, _, _ => absurd h (List.not_mem_nil _)
  | _, .cons key value rest fresh, k, h, k', v => by
      by_cases hk : k = key
      · subst hk
        by_cases hk' : k' = k <;> simp [set, get, hk']
      · have hmem := (List.mem_cons.1 h).resolve_left hk
        by_cases hk' : k' = key
        · subst hk'
          simp [set, get, hk, Ne.symm hk]
        · simp [set, get, hk, hk', rest.get_set hmem k' v]

theorem get_snoc : {keys : List String} → (m : Entries keys) → (k : String) → (v : Value) →
    (h : k ∉ keys) → (k' : String) → (m.snoc k v h).get k' = if k' = k then some v else m.get k'
  | _, .nil, _, _, _, _ => by simp [snoc, get]
  | _, .cons key value rest fresh, k, v, h, k' => by
      have hk : k ≠ key := fun e => h (by rw [e]; exact List.mem_cons_self key _)
      by_cases hk' : k' = key
      · subst hk'
        simp [snoc, get, Ne.symm hk]
      · simp [snoc, get, hk', rest.get_snoc k v _ k']

end Entries

namespace Value

/-- `Value::get` with a string index: the entry of an object, and nothing for any other value. -/
def get : Value → String → Option Value
  | .object m, k => m.get k
  | _, _ => none

/-- `Value::as_str`. -/
def asStr : Value → Option String
  | .string s => some s
  | _ => none

/-- `Value::as_u64`. -/
def asU64 : Value → Option UInt64
  | .number (.posInt n) => some n
  | _ => none

/-- `Value::as_bool`. -/
def asBool : Value → Option Bool
  | .bool b => some b
  | _ => none

/-- `Value::as_array`. -/
def asArray : Value → Option (List Value)
  | .array elems => some elems
  | _ => none

/-- `Value::as_object`, with the map given by its entries in iteration order. -/
def asObject : Value → Option (List (String × Value))
  | .object m => some m.toList
  | _ => none

/-- `x.as_object().unwrap_or(&Map::new())`: the entries of an object, and none otherwise. -/
def entries (v : Value) : List (String × Value) := v.asObject.getD []

/-- `json!({key: value})`, an object of one entry. -/
def singleton (key : String) (value : Value) : Value :=
  .object (.cons key value .nil (List.not_mem_nil _))

@[simp] theorem get_object {keys : List String} (m : Entries keys) (k : String) :
    (Value.object m).get k = m.get k := rfl

@[simp] theorem entries_object {keys : List String} (m : Entries keys) :
    (Value.object m).entries = m.toList := rfl

/-- Looking a key up in any value finds exactly an entry of its iteration. -/
theorem get_eq_some_iff (v : Value) (k : String) (x : Value) :
    v.get k = some x ↔ (k, x) ∈ v.entries := by
  cases v with
  | object m => exact m.get_eq_some_iff k x
  | _ => simp [get, entries, asObject]

/-- The keys an object iterates over are distinct. -/
theorem nodup_entries_keys (v : Value) : (v.entries.map Prod.fst).Nodup := by
  cases v with
  | object m => simpa using m.nodup_keys
  | _ => simp [entries, asObject]

end Value

/-- A `serde_json::Map` that is built rather than read, with the keys it is indexed by. -/
structure JsonObject where
  keys : List String
  entries : Entries keys

namespace JsonObject

/-- `Map::new()`. -/
def empty : JsonObject := ⟨[], .nil⟩

/-- `Map::insert`, and `value[key] = new` on an object: a key already present takes the new value
in its place, and a new key is added after the others. -/
def insert (o : JsonObject) (k : String) (v : Value) : JsonObject :=
  if h : k ∈ o.keys then ⟨o.keys, o.entries.set k v⟩ else ⟨o.keys ++ [k], o.entries.snoc k v h⟩

/-- `Value::Object(map)`. -/
def toValue (o : JsonObject) : Value := .object o.entries

/-- The object that `json!({k₁: v₁, …})` builds: its entries inserted in order into a new map. -/
def ofList (l : List (String × Value)) : JsonObject :=
  l.foldl (fun o e => o.insert e.1 e.2) empty

@[simp] theorem get_toValue (o : JsonObject) (k : String) : o.toValue.get k = o.entries.get k :=
  rfl

/-- **An insert is seen by every later lookup of its key, and by no other.** -/
@[simp] theorem get_insert (o : JsonObject) (k : String) (v : Value) (k' : String) :
    (o.insert k v).entries.get k' = if k' = k then some v else o.entries.get k' := by
  by_cases h : k ∈ o.keys
  · rw [insert, dif_pos h]
    exact o.entries.get_set h k' v
  · rw [insert, dif_neg h]
    exact o.entries.get_snoc k v h k'

/-- A lookup in a built object finds the last value written under its key. -/
theorem get_ofList (l : List (String × Value)) (k : String) :
    (ofList l).entries.get k = l.reverse.lookup k := by
  suffices ∀ o : JsonObject, (l.foldl (fun o e => o.insert e.1 e.2) o).entries.get k =
      (l.reverse.lookup k).or (o.entries.get k) by
    simpa [ofList, empty, Entries.get] using this empty
  induction l with
  | nil => intro o; rfl
  | cons e l ih =>
      intro o
      rw [List.foldl_cons, ih, get_insert, List.reverse_cons, List.lookup_append]
      rcases e with ⟨k', v⟩
      by_cases hk : k = k'
      · subst hk
        cases l.reverse.lookup k <;> simp [List.lookup_cons]
      · cases l.reverse.lookup k <;> simp [List.lookup_cons, hk, beq_eq_false_iff_ne.2 hk]

end JsonObject

/-- `json!({k₁: v₁, …})`. -/
def Value.ofList (l : List (String × Value)) : Value := (JsonObject.ofList l).toValue

@[simp] theorem Value.get_ofList (l : List (String × Value)) (k : String) :
    (Value.ofList l).get k = l.reverse.lookup k :=
  JsonObject.get_ofList l k

end Flowplane
