import SearchSource.Query.Assembly
import SearchSource.Query.Options
import SearchSource.Proofs.Except
import SearchSource.Proofs.Json.RoundTrip

/-! Search tuning given as a mapping or as the JSON text of one: the same documents come of both.
Main statement: `text_and_mapping_agree`. -/
namespace SearchSource.QueryOptions

/-- The document of a request that is tuned as a configuration says. -/
def assembleWith (config : Entries Value) (r : SearchRequest) : Except Failure SearchDocument := do
  let options ← ofConfig config
  (Assembly.assemble { r with options := options } : Except CompileError SearchDocument)

/-- The keys of a configuration under which a mapping may stand. -/
def mappingKeys : List String := ["field_value_factor", "sort_map"]

/-- Options that a document does not tell apart: a mapping that is not given is as good as an empty
one. -/
structure Alike (o o' : QueryOptions) : Prop where
  boost : o.boost = o'.boost
  factor : Assembly.orEmpty o.fieldValueFactor = Assembly.orEmpty o'.fieldValueFactor
  sortMap : Assembly.orEmpty o.sortMap = Assembly.orEmpty o'.sortMap

theorem Alike.assemble_eq {o o' : QueryOptions} (h : Alike o o') (r : SearchRequest) :
    Assembly.assemble { r with options := o } = Assembly.assemble { r with options := o' } := by
  have htext : ∀ s, Assembly.textQuery s o = Assembly.textQuery s o' := by
    intro s
    simp only [Assembly.textQuery, h.boost, h.factor]
  have hsort : ∀ order, Assembly.sort order o.sortMap = Assembly.sort order o'.sortMap := by
    intro order
    simp only [Assembly.sort, h.sortMap]
  simp only [Assembly.assemble, Assembly.textPart, htext, hsort]

section Under

variable {key : String} {v : Value} (config : Entries Value)

theorem mappingUnder_put_of_ok {m : Option (Entries Value)} (h : mappingOf v = .ok m) :
    mappingUnder key (config.put key v) = .ok m := by
  simp only [mappingUnder, Entries.lookup_put, if_true, Option.getD_some, h]

theorem mappingUnder_put_of_error {e : MappingError} (h : mappingOf v = .error e) :
    mappingUnder key (config.put key v) =
      .error (.ofKind (.invalidSetting (.text key) v (.text e.reason))) := by
  simp only [mappingUnder, Entries.lookup_put, if_true, Option.getD_some, h]

theorem mappingUnder_put_of_ne {other : String} (hne : other ≠ key) :
    mappingUnder other (config.put key v) = mappingUnder other config := by
  simp only [mappingUnder, Entries.lookup_put, if_neg hne]

end Under

theorem mappingOf_object (m : Entries Value) :
    mappingOf (.object m) = .ok (if m.isEmpty then none else some m) := by
  cases m with
  | nil => rfl
  | cons e m => rfl

theorem mappingOf_text {s : String} (h : s ≠ "") : mappingOf (.text s) = (do
    match ← explained s.toList (Json.read s) with
    | .object es => .ok (some es)
    | _ => .error .notAnObject) := by
  have hholds : (Value.text s).holds = true := by simpa [Value.holds] using h
  unfold mappingOf
  rw [if_pos hholds]
  rfl

theorem ne_empty_of_read {s : String} {v : Value} (h : Json.read s = .ok v) : s ≠ "" := by
  rintro rfl
  cases h

theorem mappingOf_text_of_object {s : String} {m : Entries Value}
    (h : Json.read s = .ok (.object m)) :
    mappingOf (.text s) = .ok (some m) := by
  rw [mappingOf_text (ne_empty_of_read h), h]
  rfl

/-- A text that says something, but not a mapping, is turned down; if it is JSON, then because it is
no object. -/
theorem mappingOf_text_of_not_object {s : String} (hne : s ≠ "")
    (h : ∀ m, Json.read s ≠ .ok (.object m)) :
    ∃ e, mappingOf (.text s) = .error e ∧ ∀ v, Json.read s = .ok v → e = .notAnObject := by
  rw [mappingOf_text hne]
  cases hread : Json.read s with
  | error d =>
    refine ⟨.notJson (d.message s.toList), rfl, ?_⟩
    rintro v ⟨⟩
  | ok v =>
    refine ⟨.notAnObject, ?_, fun _ _ => rfl⟩
    cases v with
    | object m => exact absurd hread (h m)
    | _ => rfl

/-- Configurations lead to the same document if they have the same boosts and the same mappings, an
empty one being as good as none. -/
theorem assembleWith_congr {config config' : Entries Value}
    (hboost : config.lookup "boost" = config'.lookup "boost")
    (h : ∀ key ∈ mappingKeys, (mappingUnder key config).map Assembly.orEmpty =
      (mappingUnder key config').map Assembly.orEmpty)
    (r : SearchRequest) : assembleWith config r = assembleWith config' r := by
  unfold assembleWith ofConfig
  rw [hboost]
  obtain ⟨f, hf, hf'⟩ | ⟨factor, factor', hfactor, hfactor', hfactors⟩ :=
    Except.map_eq_map (h "field_value_factor" (by decide))
  · rw [hf, hf']
    rfl
  obtain ⟨f, hf, hf'⟩ | ⟨sortMap, sortMap', hsort, hsort', hsorts⟩ :=
    Except.map_eq_map (h "sort_map" (by decide))
  · rw [hfactor, hfactor', hf, hf']
    rfl
  · have halike : Alike ⟨boostOf ((config'.lookup "boost").getD .null), factor, sortMap⟩
        ⟨boostOf ((config'.lookup "boost").getD .null), factor', sortMap'⟩ :=
          ⟨rfl, hfactors, hsorts⟩
    rw [hfactor, hfactor', hsort, hsort']
    exact congrArg (fun x => (monadLift x : Except Failure SearchDocument)) (halike.assemble_eq r)

/-- What stands under a key counts as the mapping that it is read as. -/
theorem assembleWith_put_congr {key : String} (hkey : key ∈ mappingKeys) {v v' : Value}
    {m m' : Option (Entries Value)} (h : mappingOf v = .ok m) (h' : mappingOf v' = .ok m')
    (hm : Assembly.orEmpty m = Assembly.orEmpty m') (config : Entries Value) (r : SearchRequest) :
    assembleWith (config.put key v) r = assembleWith (config.put key v') r := by
  have hne : "boost" ≠ key := by
    rintro rfl
    revert hkey
    decide
  refine assembleWith_congr ?_ ?_ r
  · rw [Entries.lookup_put, if_neg hne, Entries.lookup_put, if_neg hne]
  · intro other _
    by_cases hother : other = key
    · rw [hother, mappingUnder_put_of_ok config h, mappingUnder_put_of_ok config h']
      exact congrArg Except.ok hm
    · rw [mappingUnder_put_of_ne config hother, mappingUnder_put_of_ne config hother]

/-- The error for a value under a key of a configuration. -/
def rejection (key : String) (v : Value) (e : MappingError) : Failure :=
  .ofKind (.invalidSetting (.text key) v (.text e.reason))

/-- A configuration is rejected for what stands under a key, unless it is rejected for the key that
comes before. -/
theorem ofConfig_put_of_error {key : String} (hkey : key ∈ mappingKeys) {v : Value}
    {e : MappingError} (h : mappingOf v = .error e) (config : Entries Value) :
    (∀ f, key = "sort_map" → mappingUnder "field_value_factor" config = .error f →
        ofConfig (config.put key v) = .error f) ∧
      ((key = "sort_map" → ∃ m, mappingUnder "field_value_factor" config = .ok m) →
        ofConfig (config.put key v) = .error (rejection key v e)) := by
  simp only [mappingKeys, List.mem_cons, List.not_mem_nil, or_false] at hkey
  unfold ofConfig
  rcases hkey with rfl | rfl
  · rw [mappingUnder_put_of_error config h]
    refine ⟨fun _ hkey => absurd hkey (by decide), fun _ => rfl⟩
  · rw [mappingUnder_put_of_error config h, mappingUnder_put_of_ne config (by decide)]
    constructor
    · intro f _ hf
      rw [hf]
      rfl
    · intro hfactor
      obtain ⟨m, hm⟩ := hfactor rfl
      rw [hm]
      rfl

/-- A mapping under a key of a configuration, and its JSON text in either style, lead to the same
document or to the same error, whatever the request and the rest of the configuration are. A text
that is no mapping is rejected in the name of its key, with the reason that it is no object if it is
JSON at all; only a fault under the key that comes before is reported first. -/
theorem text_and_mapping_agree (config : Entries Value) (r : SearchRequest) :
    ∀ key ∈ mappingKeys,
      (∀ (m : Entries Value) (style : Json.Style), Json.Expressible (.object m) →
        (∀ vs, ¬Value.Part (.tuple vs) (.object m)) → (∀ c, ¬Value.Part (.constant c) (.object m)) →
          assembleWith (config.put key (.text (Json.write style (.object m)))) r =
            assembleWith (config.put key (.object m)) r) ∧
      ∀ s, s ≠ "" → (∀ m, Json.read s ≠ .ok (.object m)) →
        ∃ e : MappingError, (∀ v, Json.read s = .ok v → e.reason = "expected a JSON object") ∧
          (∀ f, key = "sort_map" → mappingUnder "field_value_factor" config = .error f →
            ofConfig (config.put key (.text s)) = .error f) ∧
          ((key = "sort_map" → ∃ m, mappingUnder "field_value_factor" config = .ok m) →
            ofConfig (config.put key (.text s)) = .error (rejection key (.text s) e)) := by
  intro key hkey
  constructor
  · intro m style hm htuples hconstants
    have hread : Json.read (Json.write style (.object m)) = .ok (.object m) := by
      rw [Json.read_write style hm, hm.decoded_eq_self htuples hconstants]
    refine assembleWith_put_congr hkey (mappingOf_text_of_object hread)
      (mappingOf_object m) ?_ config r
    cases m with
    | nil => rfl
    | cons e m => rfl
  · intro s hne hs
    obtain ⟨e, herror, hreason⟩ := mappingOf_text_of_not_object hne hs
    refine ⟨e, ?_, ofConfig_put_of_error hkey herror config⟩
    intro v hv
    rw [hreason v hv]
    rfl

/-- A search for ferries, of which those with more cabins come first. -/
def ferrySearch : SearchRequest where
  index := "ferries"
  filter := []
  search := some "night"
  options := QueryOptions.default
  ownQuery := none
  aggregates := []
  order := [⟨"cabins", .text "desc"⟩]
  limit := .int 5
  page := .null
  attributes := []
  explain := none

def ferryFactor : Entries Value :=
  [("field", .text "cabins"), ("factor", .int 2), ("missing", .list [.null])]

theorem text_and_mapping_agree_ferries :
    (Json.Expressible (.object ferryFactor) ∧
      (∀ vs, ¬Value.Part (.tuple vs) (.object ferryFactor)) ∧
      (∀ c, ¬Value.Part (.constant c) (.object ferryFactor)) ∧
      assembleWith (Entries.put "field_value_factor"
          (.text (Json.write ⟨true, Value.display⟩ (.object ferryFactor)))
            [("boost", .text "name^5")]) ferrySearch =
        assembleWith (Entries.put "field_value_factor" (.object ferryFactor)
          [("boost", .text "name^5")]) ferrySearch) ∧
    "[]" ≠ "" ∧ (∀ m, Json.read "[]" ≠ .ok (.object m)) ∧
      ofConfig (Entries.put "sort_map" (.text "[]") [("boost", .text "name^5")]) =
        .error (.ofKind (.invalidSetting (.text "sort_map") (.text "[]")
          (.text "expected a JSON object"))) := by
  have hfactor : Json.Expressible (.object ferryFactor) := by
    refine .object (by decide) ?_
    simp only [ferryFactor, List.forall_mem_cons]
    exact ⟨.text _, Json.expressible_int (by decide),
      .list (List.forall_mem_singleton.mpr .null), nofun⟩
  have hparts : ∀ {part}, Value.Part part (.object ferryFactor) →
      part ∈ [.object ferryFactor, .text "cabins", .int 2, .list [.null], .null] := by
    rintro part (_ | _ | _ | ⟨he, inner⟩)
    · simp
    · simp only [ferryFactor, List.mem_cons, List.not_mem_nil, or_false] at he
      rcases he with rfl | rfl | rfl
      · cases inner
        simp
      · cases inner
        simp
      · rcases inner with _ | ⟨hv, inner⟩
        · simp
        · obtain rfl := List.mem_singleton.mp hv
          cases inner
          simp
  have htuples : ∀ vs, ¬Value.Part (.tuple vs) (.object ferryFactor) :=
    fun vs hp => by simpa using hparts hp
  have hconstants : ∀ c, ¬Value.Part (.constant c) (.object ferryFactor) :=
    fun c hp => by simpa using hparts hp
  have hlist : Json.read "[]" = .ok (.list []) := rfl
  have hread : ∀ m, Json.read "[]" ≠ .ok (.object m) := by
    rw [hlist]
    exact nofun
  have hagree :=
    (text_and_mapping_agree [("boost", .text "name^5")] ferrySearch
      "field_value_factor" (by decide)).1
    ferryFactor ⟨true, Value.display⟩ hfactor htuples hconstants
  obtain ⟨e, hreason, -, hrejected⟩ :=
    (text_and_mapping_agree [("boost", .text "name^5")] ferrySearch "sort_map" (by decide)).2
      "[]" (by decide) hread
  refine ⟨⟨hfactor, htuples, hconstants, hagree⟩, by decide, hread, ?_⟩
  rw [hrejected fun _ => ⟨none, rfl⟩, rejection, hreason _ hlist]

end SearchSource.QueryOptions
