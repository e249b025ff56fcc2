import SearchSource.Settings.Connection
import SearchSource.Proofs.Entries
import SearchSource.Proofs.Except
import Mathlib.Data.List.Forall2

/-! What an instance of a class of settings is made of: a value for each field, given or by default,
as the check of the class leaves it. Main statements: `construct_eq_ok` and `lookup_construct`. -/
namespace SearchSource
namespace SettingsClass

/-- The fields of a class have names of their own, and an instance has all of them after its
check. -/
structure WellFormed (c : SettingsClass) : Prop where
  distinct : c.fieldNames.Nodup
  complete : ∀ {es es'}, es.keys = c.fieldNames → c.check es = .ok es' → es'.keys = c.fieldNames

/-- The check does not put another value in the place of this one. -/
def Keeps (c : SettingsClass) (name : String) (v : Value) : Prop :=
  ∀ es es', c.check es = .ok es' → es.lookup name = some v → es'.lookup name = some v

/-- The check does not change the field. -/
def Leaves (c : SettingsClass) (name : String) : Prop :=
  ∀ es es', c.check es = .ok es' → es'.lookup name = es.lookup name

theorem Leaves.keeps {c : SettingsClass} {name : String} (h : c.Leaves name) (v : Value) :
    c.Keeps name v :=
  fun _ _ hcheck hv => (h _ _ hcheck).trans hv

variable {className : String} {given es : Entries Value} {fields : List SettingsField}
  {f : SettingsField}

theorem fill_eq_ok :
    fill className given fields = .ok es ↔
      List.Forall₂ (fun f e => e.1 = f.name ∧ (given.lookup f.name).or f.default? = some e.2) fields
        es := by
  induction fields generalizing es with
  | nil =>
    simp only [fill, Except.ok.injEq, List.forall₂_nil_left_iff]
    exact eq_comm
  | cons f fs ih =>
    simp only [fill, List.forall₂_cons_left_iff]
    cases hv : (given.lookup f.name).or f.default? with
    | none => simp
    | some v =>
      simp only [Except.bind_eq_ok, Except.pure_eq_ok, ih, Option.some.injEq]
      constructor
      · rintro ⟨others, hothers, rfl⟩
        exact ⟨_, _, ⟨rfl, rfl⟩, hothers, rfl⟩
      · rintro ⟨⟨_, _⟩, others, ⟨rfl, rfl⟩, hothers, rfl⟩
        exact ⟨others, hothers, rfl⟩

theorem keys_fill (h : fill className given fields = .ok es) : es.keys = fields.map (·.name) := by
  induction fill_eq_ok.mp h with
  | nil => rfl
  | cons he hrest ih =>
    rw [List.map_cons, ← he.1, ← ih (fill_eq_ok.mpr hrest)]
    rfl

/-- A field has the value that is given, or else its default. -/
theorem lookup_fill (hn : (fields.map (·.name)).Nodup) (h : fill className given fields = .ok es)
    (hf : f ∈ fields) : es.lookup f.name = (given.lookup f.name).or f.default? := by
  induction fill_eq_ok.mp h with
  | nil => cases hf
  | @cons g e gs rest he hrest ih =>
    obtain ⟨k, v⟩ := e
    obtain ⟨rfl, hv⟩ := he
    rw [List.map_cons, List.nodup_cons] at hn
    rcases List.mem_cons.mp hf with rfl | hf
    · rw [List.lookup_cons_self, hv]
    · have hne : f.name ≠ g.name := fun heq => hn.1 (heq ▸ List.mem_map_of_mem hf)
      rw [Entries.lookup_cons_of_ne hne]
      exact ih hn.2 (fill_eq_ok.mpr hrest) hf

theorem isSome_of_fill (h : fill className given fields = .ok es) (hf : f ∈ fields) :
    ((given.lookup f.name).or f.default?).isSome := by
  have hfill := fill_eq_ok.mp h
  obtain ⟨i, hi, rfl⟩ := List.mem_iff_get.mp hf
  rw [(hfill.get i.2 (hfill.length_eq ▸ i.2)).2]
  rfl

variable {c : SettingsClass}

/-- What it takes for an instance: values of fields only, one for every field that has no default,
and the check. -/
theorem construct_eq_ok :
    c.construct given = .ok es ↔ (∀ k ∈ given.keys, k ∈ c.fieldNames) ∧
      ∃ filled, fill c.name given c.fields = .ok filled ∧ c.check filled = .ok es := by
  unfold construct
  cases hfind : given.find? fun e => e.1 ∉ c.fieldNames with
  | none =>
    have hknown : ∀ k ∈ given.keys, k ∈ c.fieldNames := by
      intro k hk
      obtain ⟨e, he, rfl⟩ := List.mem_map.mp hk
      simpa using List.find?_eq_none.mp hfind e he
    rw [Except.bind_eq_ok]
    exact (and_iff_right hknown).symm
  | some e =>
    have hunknown : e.1 ∉ c.fieldNames := by simpa using List.find?_some hfind
    exact iff_of_false nofun fun h =>
      hunknown (h.1 e.1 (List.mem_map_of_mem (List.mem_of_find?_eq_some hfind)))

variable (hc : c.WellFormed) (h : c.construct given = .ok es)

include hc h

theorem keys_construct : es.keys = c.fieldNames := by
  obtain ⟨-, filled, hfill, hcheck⟩ := construct_eq_ok.mp h
  exact hc.complete (keys_fill hfill) hcheck

/-- A field that the check leaves alone has the value that is given, or else its default. -/
theorem lookup_construct (hf : f ∈ c.fields) (hl : c.Leaves f.name) :
    es.lookup f.name = (given.lookup f.name).or f.default? := by
  obtain ⟨-, filled, hfill, hcheck⟩ := construct_eq_ok.mp h
  rw [hl _ _ hcheck, lookup_fill hc.distinct hfill hf]

theorem lookup_construct_of_keeps (hf : f ∈ c.fields) {v : Value}
    (hv : (given.lookup f.name).or f.default? = some v) (hk : c.Keeps f.name v) :
    es.lookup f.name = some v := by
  obtain ⟨-, filled, hfill, hcheck⟩ := construct_eq_ok.mp h
  exact hk _ _ hcheck ((lookup_fill hc.distinct hfill hf).trans hv)

end SettingsClass

theorem requireAllPositive_eq_ok {className : String} {shared es es' : Entries Value}
    {names : List String} (h : requireAllPositive className shared names es = .ok es') :
    es' = es := by
  induction names with
  | nil =>
    cases h
    rfl
  | cons n ns ih =>
    obtain ⟨_, -, hrest⟩ := Except.bind_eq_ok.mp h
    exact ih hrest

/-- A class whose check only compares with zero. -/
theorem SettingsClass.leaves_of_positive {c : SettingsClass} {shared : Entries Value}
    {names : List String} (h : c.check = requireAllPositive c.name shared names) (name : String) :
    c.Leaves name := by
  intro es es' hcheck
  rw [h] at hcheck
  rw [requireAllPositive_eq_ok hcheck]

theorem SettingsClass.wellFormed_of_positive {c : SettingsClass} {shared : Entries Value}
    {names : List String} (h : c.check = requireAllPositive c.name shared names)
    (hn : c.fieldNames.Nodup) : c.WellFormed where
  distinct := hn
  complete hkeys hcheck := by
    rw [h] at hcheck
    rw [requireAllPositive_eq_ok hcheck, hkeys]

namespace Connection

/-- The check puts the default node where there is none, and changes nothing else. -/
theorem check_eq_ok {es es' : Entries Value} (h : check es = .ok es') :
    es' = if (valueOf "node" es).holds || (valueOf "nodes" es).holds then es
      else Entries.put "node" (.text defaultNode) es := by
  unfold check at h
  dsimp only at h
  generalize (if (valueOf "node" es).holds || (valueOf "nodes" es).holds then es
    else Entries.put "node" (.text defaultNode) es) = filled at h ⊢
  split at h
  · cases h
  · obtain ⟨_, -, hes⟩ := Except.bind_eq_ok.mp h
    exact (Except.pure_eq_ok.mp hes).symm

theorem wellFormed_settings : settings.WellFormed where
  distinct := by decide
  complete := by
    intro es es' hkeys hcheck
    rw [check_eq_ok hcheck]
    split
    · exact hkeys
    · rw [Entries.keys_put, hkeys]
      rfl

theorem leaves_settings {name : String} (h : name ≠ "node") : settings.Leaves name := by
  intro es es' hcheck
  rw [check_eq_ok hcheck]
  split
  · rfl
  · rw [Entries.lookup_put, if_neg h]

/-- An empty node gives way to the default one. -/
theorem keeps_node_iff {v : Value} : settings.Keeps "node" v ↔ v.holds := by
  constructor
  · intro hk
    by_contra hv
    have hcheck : settings.check [("node", v), ("request_timeout", .null)] =
        .ok [("node", .text defaultNode), ("request_timeout", .null)] := by
      have hnone : (valueOf "node" [("node", v), ("request_timeout", .null)]).holds = false :=
        Bool.eq_false_iff.mpr hv
      simp only [settings, check, hnone]
      rfl
    have hdefault := hk _ _ hcheck rfl
    cases hdefault
    exact hv rfl
  · intro h es es' hcheck hv
    rw [check_eq_ok hcheck, if_pos]
    · exact hv
    · simp [valueOf, hv, h]

end Connection
end SearchSource
