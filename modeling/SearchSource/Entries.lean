/-! Mappings from texts that keep the order in which their keys arrived. Main statements: what is
looked up after `put`, `merge` and `drop`, and that `put` keeps the keys in place. -/
namespace SearchSource

/-- Keys with their values, oldest key first. -/
abbrev Entries (α : Type) := List (String × α)

namespace Entries

variable {α : Type}

/-- A new key goes to the end; a known one keeps its place and takes the new value. -/
def put (key : String) (value : α) : Entries α → Entries α
  | [] => [(key, value)]
  | (k, v) :: rest => if k = key then (k, value) :: rest else (k, v) :: put key value rest

def has (key : String) (es : Entries α) : Bool := (es.lookup key).isSome

/-- Put all entries of `new`, in their order. -/
def merge (es new : Entries α) : Entries α := new.foldl (fun acc e => acc.put e.1 e.2) es

/-- A mapping from entries in which keys may come twice. -/
def ofList (es : List (String × α)) : Entries α := merge [] es

def drop (key : String) (es : Entries α) : Entries α := es.filter (·.1 ≠ key)

def keys (es : Entries α) : List String := es.map (·.1)

theorem lookup_put (key k : String) (value : α) (es : Entries α) :
    (es.put key value).lookup k = if k = key then some value else es.lookup k := by
  induction es with
  | nil => by_cases h : k = key <;> grind [put]
  | cons e rest ih => by_cases he : e.1 = key <;> grind [put]

/-- The last entry of a key in `new` counts. -/
theorem lookup_merge (k : String) (es new : Entries α) :
    (es.merge new).lookup k = (new.reverse.lookup k).or (es.lookup k) := by
  induction new generalizing es with
  | nil => rfl
  | cons e rest ih =>
    have step : es.merge (e :: rest) = (es.put e.1 e.2).merge rest := rfl
    rw [step, ih, lookup_put, List.reverse_cons, List.lookup_append, Option.or_assoc]
    congr 1
    by_cases h : k = e.1 <;> grind

theorem lookup_drop (key k : String) (es : Entries α) :
    (es.drop key).lookup k = if k = key then none else es.lookup k := by
  induction es with
  | nil => by_cases h : k = key <;> simp [drop, h]
  | cons e rest ih => by_cases he : e.1 = key <;> grind [drop]

theorem keys_put (key : String) (value : α) (es : Entries α) :
    (es.put key value).keys = if key ∈ es.keys then es.keys else es.keys ++ [key] := by
  induction es with
  | nil => simp [put, keys]
  | cons e rest ih => by_cases he : e.1 = key <;> grind [put, keys]

theorem nodup_keys_put {es : Entries α} (h : es.keys.Nodup) (key : String) (value : α) :
    (es.put key value).keys.Nodup := by
  rw [keys_put]
  split
  · exact h
  · next hk => exact List.nodup_append.2 ⟨h, by simp, fun a ha b hb => by grind⟩

theorem put_put (key : String) (v w : α) (es : Entries α) :
    (es.put key v).put key w = es.put key w := by
  induction es with
  | nil => simp [put]
  | cons e rest ih => by_cases he : e.1 = key <;> simp [put, he, ih]

end Entries
end SearchSource
