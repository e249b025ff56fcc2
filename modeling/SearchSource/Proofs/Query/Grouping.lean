import SearchSource.Query.Filter
import SearchSource.Proofs.Distinct
import SearchSource.Proofs.Entries

/-! Conditions grouped by attribute. Main statement: `byAttribute_eq`, the attributes in order of
first appearance, each with its own conditions in their order. -/
namespace SearchSource

namespace Filter

theorem byAttribute_snoc (cs : List Condition) (c : Condition) :
    byAttribute (cs ++ [c]) =
      Entries.put c.path (((byAttribute cs).lookup c.path).getD [] ++ [c]) (byAttribute cs) := by
  simp [byAttribute]

theorem keys_byAttribute (cs : List Condition) :
    (byAttribute cs).keys = (cs.map (·.path)).eraseDups := by
  induction cs using List.reverseRecOn with
  | nil => rfl
  | append_singleton cs c ih =>
    rw [byAttribute_snoc, Entries.keys_put, ih, List.map_append, List.map_singleton, eraseDups_snoc]
    simp only [List.mem_eraseDups]

theorem nodup_keys_byAttribute (cs : List Condition) : (byAttribute cs).keys.Nodup := by
  rw [keys_byAttribute]
  exact nodup_eraseDups _

theorem lookup_byAttribute (cs : List Condition) (path : String) :
    (byAttribute cs).lookup path =
      if path ∈ cs.map (·.path) then some (cs.filter (·.path = path)) else none := by
  induction cs using List.reverseRecOn generalizing path with
  | nil => rfl
  | append_singleton cs c ih =>
    rw [byAttribute_snoc, Entries.lookup_put, ih, ih]
    by_cases hc : path = c.path
    · subst hc
      by_cases hm : c.path ∈ cs.map (·.path)
      · simp [hm]
      · have hnone : cs.filter (·.path = c.path) = [] := by
          rw [List.filter_eq_nil_iff]
          intro d hd hp
          exact hm (List.mem_map.mpr ⟨d, hd, by simpa using hp⟩)
        simp [hm, hnone]
    · simp [hc, Ne.symm hc, List.filter_append]

/-- The attributes in order of first appearance, each with its own conditions in their order. -/
theorem byAttribute_eq (cs : List Condition) :
    byAttribute cs =
      (cs.map (·.path)).eraseDups.map fun path => (path, cs.filter (·.path = path)) := by
  rw [← keys_byAttribute]
  apply Entries.eq_map_of_lookup (nodup_keys_byAttribute cs)
  intro path hpath
  rw [keys_byAttribute, List.mem_eraseDups] at hpath
  rw [lookup_byAttribute, if_pos hpath]

theorem mem_byAttribute {cs : List Condition} {e : String × List Condition} :
    e ∈ byAttribute cs ↔ e.1 ∈ cs.map (·.path) ∧ e.2 = cs.filter (·.path = e.1) := by
  rw [byAttribute_eq, List.mem_map]
  constructor
  · rintro ⟨path, hpath, rfl⟩
    exact ⟨List.mem_eraseDups.mp hpath, rfl⟩
  · rintro ⟨hpath, he⟩
    exact ⟨e.1, List.mem_eraseDups.mpr hpath, by rw [← he]⟩

end Filter
end SearchSource
