import SearchSource.Value
import SearchSource.Proofs.Entries

/-! Mappings and sequences among the values, and what may be left out. -/
namespace SearchSource.Value

/-- A value is nested in itself and in the mappings that it stands in, at any depth. -/
inductive Nested (inner : Value) : Value → Prop
  | whole : Nested inner inner
  | entry {es : List (String × Value)} {e} (h : e ∈ es) (hinner : Nested inner e.2) :
    Nested inner (.object es)

/-- The keys of mappings that are nested in a value are texts. Nothing is said about mappings in
lists and tuples. -/
def HasTextKeys (v : Value) : Prop := ∀ k w, ¬ Nested (.keyed k w) v

theorem hasTextKeys_object_iff (es : Entries Value) :
    HasTextKeys (.object es) ↔ ∀ e ∈ es, e.2.HasTextKeys := by
  refine ⟨fun h e he k w hk => h k w (.entry he hk), ?_⟩
  rintro h k w (_ | ⟨he, hk⟩)
  exact h _ he k w hk

theorem hasTextKeys_text (s : String) : HasTextKeys (.text s) := by
  rintro k w ⟨⟩

theorem hasTextKeys_list (vs : List Value) : HasTextKeys (.list vs) := by
  rintro k w ⟨⟩

/-- A mapping all of whose own keys are texts. -/
def isObject : Value → Bool
  | object _ => true
  | _ => false

def isMapping : Value → Bool
  | object _ => true
  | keyed _ _ => true
  | _ => false

/-- A mapping, or nothing. -/
def mayBeMapping : Value → Bool
  | null => true
  | v => v.isMapping

/-- The items of a list; nothing stands for no items. -/
def listed? : Value → Option (List Value)
  | null => some []
  | list vs => some vs
  | _ => none

/-- What stands under a key, and `null` where nothing does. -/
def entry (v : Value) (key : String) : Value :=
  match v with
  | object es => (es.lookup key).getD null
  | _ => null

theorem isMapping_of_isObject {v : Value} (h : v.isObject) : v.isMapping := by
  cases v with
  | object es => rfl
  | _ => cases h

theorem ne_object {v : Value} (h : v.isMapping = false) : ∀ es, v ≠ .object es := by
  rintro es rfl
  cases h

theorem mayBeMapping_cases {v : Value} (h : v.mayBeMapping) : v = null ∨ v.isMapping := by
  cases v with
  | null => exact .inl rfl
  | _ => exact .inr h

theorem mayBeMapping_of_isMapping {v : Value} (h : v.isMapping) : v.mayBeMapping := by
  cases v with
  | null => cases h
  | _ => exact h

theorem get_eq_entry {v : Value} (h : v.isMapping) (key : String) :
    v.get key = .ok (v.entry key) := by
  cases v with
  | object es => rfl
  | keyed k w => rfl
  | _ => cases h

theorem entry_append {before : Entries Value} {key : String} (h : key ∉ before.keys) (v : Value)
    (after : Entries Value) : (object (before ++ (key, v) :: after)).entry key = v := by
  simp only [entry, List.lookup_append, Entries.lookup_eq_none.mpr h, List.lookup_cons_self]
  rfl

/-- A list that holds yields its items; what does not hold is empty or nothing. -/
theorem listed_cases {v : Value} {vs : List Value} (h : v.listed? = some vs) :
    v.holds = true ∧ v.elements = .ok vs ∨ v.holds = false ∧ vs = [] := by
  cases v with
  | null =>
    cases h
    exact .inr ⟨rfl, rfl⟩
  | list _ =>
    cases h
    cases vs with
    | nil => exact .inr ⟨rfl, rfl⟩
    | cons w ws => exact .inl ⟨rfl, rfl⟩
  | _ => cases h

end SearchSource.Value
