import SearchSource.Proofs.Query.Options
import SearchSource.Proofs.Json.Told

/-! Sorting by the names that a configuration gives to attributes. Main statement:
`sorts_iff_names_fields`. -/
namespace SearchSource.Assembly

/-- What an attribute is sorted by: what stands under it in the map, or itself where nothing that
holds does. -/
def sortKey (sortMap : Entries Value) (path : String) : Value :=
  let mapped := (sortMap.lookup path).getD .null
  if mapped.holds then mapped else .text path

/-- For each criterion in turn one mapping from one name to its direction, and the score last. -/
def SortsBy (order : List OrderCriterion) (vs : List Value) : Prop :=
  ∃ criteria, vs = criteria ++ [.text "_score"] ∧
    List.Forall₂ (fun c v => ∃ name, v = .object [(name, c.direction)]) order criteria

/-- What stands under an attribute in the map is a text, unless it does not hold. -/
def NamesField (sortMap : Entries Value) (path : String) : Prop :=
  ∀ v, sortMap.lookup path = some v → v.holds → ∃ name, v = .text name

/-- What stands under an attribute in the map is a list or a mapping that is not empty. -/
def Blocks (sortMap : Entries Value) (path : String) : Prop :=
  ∃ v, sortMap.lookup path = some v ∧ v.holds ∧ ((∃ vs, v = .list vs) ∨ ∃ es, v = .object es)

theorem single_of_asText? {key : Value} {s : String} (h : key.asText? = some s) (v : Value) :
    single key v = .ok (.object [(s, v)]) := by
  unfold single
  rw [h]

/-- Of one entry a mapping can be made unless what is to be its key is made of other values. -/
theorem single_eq_error {key v : Value} {f : Fault} :
    single key v = .error f ↔ f = .wrongType ∧ key.asText? = none ∧ key.canBeKey = false := by
  unfold single
  cases key.asText? with
  | some s => simp
  | none => cases key.canBeKey <;> simp [eq_comm]

theorem asText?_of_single_eq_object {key v w : Value} {name : String}
    (h : single key v = .ok (.object [(name, w)])) : key.asText? = some name := by
  unfold single at h
  cases hkey : key.asText? with
  | some s =>
    rw [hkey] at h
    cases h
    rfl
  | none =>
    rw [hkey] at h
    dsimp only at h
    split at h <;> cases h

theorem sortKey_eq_text_iff {sortMap : Entries Value} {path : String} :
    (∃ name, sortKey sortMap path = .text name) ↔ NamesField sortMap path := by
  unfold sortKey NamesField
  cases h : sortMap.lookup path with
  | none => simp [Value.holds]
  | some v => cases hv : v.holds <;> simp [hv]

theorem sortKey_eq_list_or_object_iff {sortMap : Entries Value} {path : String} :
    ((∃ vs, sortKey sortMap path = .list vs) ∨ ∃ es, sortKey sortMap path = .object es) ↔
      Blocks sortMap path := by
  unfold sortKey Blocks
  cases h : sortMap.lookup path with
  | none => simp [Value.holds]
  | some v => cases hv : v.holds <;> simp [hv]

section Told

variable {sortMap : Entries Value} (told : ∀ e ∈ sortMap, Json.Told e.2)

include told

theorem told_sortKey (path : String) : Json.Told (sortKey sortMap path) := by
  unfold sortKey
  dsimp only
  split
  · cases h : sortMap.lookup path with
    | none => exact .null
    | some v => exact told _ (Entries.mem_of_lookup h)
  · exact .text path

theorem sortCriterion_eq_error_iff {c : OrderCriterion} {f : Fault} :
    sortCriterion sortMap c = .error f ↔ f = .wrongType ∧ Blocks sortMap c.path := by
  have hkey := told_sortKey told c.path
  have hsingle : sortCriterion sortMap c = single (sortKey sortMap c.path) c.direction := rfl
  rw [hsingle, single_eq_error, ← sortKey_eq_list_or_object_iff, ← hkey.canBeKey_eq_false_iff]
  refine and_congr_right fun _ => and_iff_right_of_imp fun hblocked => ?_
  rcases hkey.canBeKey_eq_false_iff.mp hblocked with ⟨vs, hvs⟩ | ⟨es, hes⟩
  · rw [hvs]
    rfl
  · rw [hes]
    rfl

theorem sortCriterion_eq_object_iff {c : OrderCriterion} :
    (∃ name, sortCriterion sortMap c = .ok (.object [(name, c.direction)])) ↔
      NamesField sortMap c.path := by
  have hsingle : sortCriterion sortMap c = single (sortKey sortMap c.path) c.direction := rfl
  rw [hsingle, ← sortKey_eq_text_iff]
  refine exists_congr fun name => ⟨fun h => ?_, fun h => ?_⟩
  · exact (told_sortKey told c.path).eq_text_of_asText? (asText?_of_single_eq_object h)
  · rw [h]
    exact single_of_asText? rfl c.direction

theorem sort_eq_error_iff {order : List OrderCriterion} {given : Option (Entries Value)}
    (h : orEmpty given = sortMap) {f : Fault} :
    sort order given = .error f ↔ f = .wrongType ∧ ∃ c ∈ order, Blocks sortMap c.path := by
  unfold sort
  rw [Except.bind_pure_eq_error, h]
  constructor
  · intro hsort
    obtain ⟨c, hc, hfailed⟩ := exists_of_mapM_eq_error hsort
    obtain ⟨hf, hblocks⟩ := (sortCriterion_eq_error_iff told).mp hfailed
    exact ⟨hf, c, hc, hblocks⟩
  · rintro ⟨rfl, c, hc, hblocks⟩
    obtain ⟨f, hf⟩ := exists_mapM_eq_error hc ((sortCriterion_eq_error_iff told).mpr ⟨rfl, hblocks⟩)
    obtain ⟨d, -, hfailed⟩ := exists_of_mapM_eq_error hf
    rw [hf, ((sortCriterion_eq_error_iff told).mp hfailed).1]

theorem exists_sortsBy_iff {order : List OrderCriterion} {given : Option (Entries Value)}
    (h : orEmpty given = sortMap) :
    (∃ vs, sort order given = .ok vs ∧ SortsBy order vs) ↔
      ∀ c ∈ order, NamesField sortMap c.path := by
  have heach : (∃ criteria, order.mapM (sortCriterion sortMap) = .ok criteria ∧
      List.Forall₂ (fun c v => ∃ name, v = .object [(name, c.direction)]) order criteria) ↔
      ∀ c ∈ order, NamesField sortMap c.path := by
    rw [exists_mapM_forall₂_iff]
    refine forall₂_congr fun c _ => ?_
    rw [← sortCriterion_eq_object_iff told]
    constructor
    · rintro ⟨v, hv, name, rfl⟩
      exact ⟨name, hv⟩
    · rintro ⟨name, hname⟩
      exact ⟨_, hname, name, rfl⟩
  rw [← heach]
  unfold sort SortsBy
  rw [h]
  constructor
  · rintro ⟨vs, hsort, criteria, hvs, hcriteria⟩
    obtain ⟨made, hmade, hsort⟩ := Except.bind_eq_ok.mp hsort
    obtain rfl : made = criteria :=
      (List.append_inj' ((Except.pure_eq_ok.mp hsort).trans hvs) rfl).1
    exact ⟨made, hmade, hcriteria⟩
  · rintro ⟨criteria, hmade, hcriteria⟩
    refine ⟨criteria ++ [.text "_score"], ?_, criteria, rfl, hcriteria⟩
    rw [hmade]
    rfl

end Told

end SearchSource.Assembly

namespace SearchSource

open Assembly (sort orEmpty SortsBy NamesField Blocks)

namespace QueryOptions

theorem sortMap_of_ofConfig {config : Entries Value} {options : QueryOptions}
    (h : ofConfig config = .ok options) :
    mappingOf ((config.lookup "sort_map").getD .null) = .ok options.sortMap := by
  obtain ⟨factor, -, h⟩ := Except.bind_eq_ok.mp h
  obtain ⟨sortMap, hsort, h⟩ := Except.bind_eq_ok.mp h
  obtain rfl := Except.pure_eq_ok.mp h
  unfold mappingUnder at hsort
  dsimp only at hsort
  split at hsort
  · next hm =>
    cases hsort
    exact hm
  · cases hsort

/-- A text that is taken for a mapping is empty, or the JSON text of an object. -/
theorem mappingOf_text_eq_ok {s : String} {m : Option (Entries Value)}
    (h : mappingOf (.text s) = .ok m) :
    s = "" ∧ m = none ∨ ∃ es, Json.read s = .ok (.object es) ∧ m = some es := by
  by_cases hs : s = ""
  · subst hs
    exact .inl ⟨rfl, (Except.ok.inj h).symm⟩
  · by_cases hread : ∃ es, Json.read s = .ok (.object es)
    · obtain ⟨es, hes⟩ := hread
      rw [mappingOf_text_of_object hes] at h
      exact .inr ⟨es, hes, (Except.ok.inj h).symm⟩
    · obtain ⟨e, he, -⟩ := mappingOf_text_of_not_object hs fun es hes => hread ⟨es, hes⟩
      rw [he] at h
      cases h

/-- What an accepted text tells is a map for sorting. It serves an order exactly if it names a field
for each criterion, and an order cannot be had of it at all exactly if it has a list or a mapping,
not empty, under one of them. -/
theorem sorts_iff_names_fields {config : Entries Value} {s : String}
    (given : config.lookup "sort_map" = some (.text s)) {options : QueryOptions}
    (accepted : ofConfig config = .ok options) :
    ∃ sortMap : Entries Value, (s = "" ∧ sortMap = [] ∨ Json.read s = .ok (.object sortMap)) ∧
      ∀ order, ((∃ vs, sort order options.sortMap = .ok vs ∧ SortsBy order vs) ↔
          ∀ c ∈ order, NamesField sortMap c.path) ∧
        ∀ f, sort order options.sortMap = .error f ↔
          f = .wrongType ∧ ∃ c ∈ order, Blocks sortMap c.path := by
  have hm := sortMap_of_ofConfig accepted
  rw [given, Option.getD_some] at hm
  have hsortMap : s = "" ∧ orEmpty options.sortMap = [] ∨
      Json.read s = .ok (.object (orEmpty options.sortMap)) := by
    rcases mappingOf_text_eq_ok hm with ⟨hs, hnone⟩ | ⟨es, hread, hsome⟩
    · exact .inl ⟨hs, by rw [hnone]; rfl⟩
    · rw [hsome]
      exact .inr hread
  have htold : ∀ e ∈ orEmpty options.sortMap, Json.Told e.2 := by
    rcases hsortMap with ⟨-, hempty⟩ | hread
    · rw [hempty]
      simp
    · cases Json.told_of_read hread with
      | object _ h => exact h
  exact ⟨orEmpty options.sortMap, hsortMap, fun order =>
    ⟨Assembly.exists_sortsBy_iff htold rfl, fun f => Assembly.sort_eq_error_iff htold rfl⟩⟩

/-- The text of a map with a name, an empty list and a list that is not empty. -/
def berthSorting : String := "\x7b\"name\": \"name.raw\", \"port\": [], \"berth\": [\"row\", 2]\x7d"

def berthMap : Entries Value :=
  [("name", .text "name.raw"), ("port", .list []), ("berth", .list [.text "row", .int 2])]

theorem sorts_iff_names_fields_berths :
    ofConfig [("sort_map", .text berthSorting)] = .ok ⟨none, none, some berthMap⟩ ∧
      (∃ vs, sort [⟨"name", .text "desc"⟩, ⟨"port", .text "asc"⟩, ⟨"depth", .text "asc"⟩]
        (some berthMap) = .ok vs ∧
        SortsBy [⟨"name", .text "desc"⟩, ⟨"port", .text "asc"⟩, ⟨"depth", .text "asc"⟩] vs) ∧
      sort [⟨"name", .text "desc"⟩, ⟨"berth", .text "asc"⟩] (some berthMap) =
        .error .wrongType := by
  have hread : Json.read berthSorting = .ok (.object berthMap) := rfl
  have haccepted : ofConfig [("sort_map", .text berthSorting)] = .ok ⟨none, none, some berthMap⟩ :=
    rfl
  obtain ⟨sortMap, hsortMap, hserves⟩ := sorts_iff_names_fields rfl haccepted
  obtain rfl : sortMap = berthMap := by
    rcases hsortMap with ⟨hempty, -⟩ | hmap
    · exact absurd hempty (by decide)
    · cases hmap.symm.trans hread
      rfl
  refine ⟨haccepted, (hserves _).1.mpr ?_,
    ((hserves _).2 _).mpr ⟨rfl, ⟨"berth", .text "asc"⟩, by simp, ?_⟩⟩
  · simp [NamesField, berthMap, List.lookup_cons, Value.holds]
  · exact ⟨_, rfl, rfl, .inl ⟨_, rfl⟩⟩

/-- A text is accepted though a list stands in it for the name of a field, and an order by it is not
had. -/
theorem listedName_does_not_sort :
    ofConfig [("sort_map", .text "\x7b\"name\": [\"name.raw\"]\x7d")] =
        .ok ⟨none, none, some [("name", .list [.text "name.raw"])]⟩ ∧
      ¬∃ vs, sort [⟨"name", .text "asc"⟩] (some [("name", .list [.text "name.raw"])]) = .ok vs ∧
        SortsBy [⟨"name", .text "asc"⟩] vs := by
  refine ⟨rfl, ?_⟩
  rintro ⟨vs, hsort, -⟩
  cases hsort

end QueryOptions
end SearchSource
