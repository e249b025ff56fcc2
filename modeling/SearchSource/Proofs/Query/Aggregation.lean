import SearchSource.Query.Aggregation
import SearchSource.Proofs.Entries
import SearchSource.Proofs.Except
import Mathlib.Data.List.Nodup
import Mathlib.Data.List.Forall2

/-! What it takes for aggregates to compile, and what a compiled forest looks like. Main statements:
`names_eq_ok`, `compileOne_eq_ok` and `compile_eq_ok`. -/
namespace SearchSource

/-- An aggregate that stands somewhere in a forest. -/
inductive AggregateSpec.Within (spec : AggregateSpec) : List AggregateSpec → Prop
  | here {specs} (h : spec ∈ specs) : Within spec specs
  | inside {specs parent} (h : parent ∈ specs) (inner : Within spec parent.children) :
    Within spec specs

namespace AggregateSpec

@[simp] theorem not_within_nil (spec : AggregateSpec) : ¬ spec.Within [] := by
  rintro (h | ⟨h, -⟩)
  · cases h
  · cases h

@[simp] theorem within_cons {spec first : AggregateSpec} {rest : List AggregateSpec} :
    spec.Within (first :: rest) ↔ spec = first ∨ spec.Within first.children ∨ spec.Within rest := by
  constructor
  · rintro (h | ⟨h, inner⟩)
    · rcases List.mem_cons.mp h with rfl | h
      · exact .inl rfl
      · exact .inr (.inr (.here h))
    · rcases List.mem_cons.mp h with rfl | h
      · exact .inr (.inl inner)
      · exact .inr (.inr (.inside h inner))
  · rintro (rfl | inner | h | ⟨h, inner⟩)
    · exact .here List.mem_cons_self
    · exact .inside List.mem_cons_self inner
    · exact .here (List.mem_cons_of_mem first h)
    · exact .inside (List.mem_cons_of_mem first h) inner

/-- What holds of a list of siblings once it holds of the children of each holds of every forest. -/
theorem forest_induction {P : List AggregateSpec → Prop}
    (step : ∀ specs, (∀ spec ∈ specs, P spec.children) → P specs) (specs : List AggregateSpec) :
    P specs :=
  step specs fun spec _ => forest_induction step spec.children
termination_by sizeOf specs
decreasing_by
  have hspec := List.sizeOf_lt_of_mem ‹spec ∈ specs›
  have hchildren : sizeOf spec.children < sizeOf spec := by
    cases spec
    simp only [mk.sizeOf_spec]
    omega
  omega

end AggregateSpec

namespace Aggregation

/-- The names of siblings, each given or its position. -/
def resolved (position : Nat) (specs : List AggregateSpec) : List String :=
  specs.mapIdx fun i spec => nameAt (position + i) spec

@[simp] theorem resolved_nil (position : Nat) : resolved position [] = [] := rfl

@[simp] theorem resolved_cons (position : Nat) (spec : AggregateSpec) (specs : List AggregateSpec) :
    resolved position (spec :: specs) = nameAt position spec :: resolved (position + 1) specs := by
  simp only [resolved, List.mapIdx_cons, Nat.add_zero, Nat.add_right_comm position, Nat.add_assoc]

@[simp] theorem length_resolved (position : Nat) (specs : List AggregateSpec) :
    (resolved position specs).length = specs.length := List.length_mapIdx

/-- What follows the first sibling stands at the same place, counted from there. -/
theorem place_cons (position : Nat) (spec : AggregateSpec) (specs : List AggregateSpec) :
    position + (spec :: specs).length = position + 1 + specs.length := by
  rw [List.length_cons]
  omega

def named (specs : List AggregateSpec) : List (String × AggregateSpec) :=
  (resolved 0 specs).zip specs

theorem keys_named (specs : List AggregateSpec) :
    Entries.keys (named specs) = resolved 0 specs := by
  simp only [Entries.keys, named]
  exact List.map_fst_zip (by simp)

theorem exists_lookup_named {specs : List AggregateSpec} {name : String}
    (h : name ∈ resolved 0 specs) :
    ∃ spec, (named specs).lookup name = some spec := by
  apply Option.ne_none_iff_exists'.mp
  intro hnone
  rw [Entries.lookup_eq_none, keys_named] at hnone
  exact hnone h

theorem namesFrom_eq_ok {position : Nat} {taken : List String} {specs : List AggregateSpec}
    {given : List String} :
    namesFrom position taken specs = .ok given ↔
      given = resolved position specs ∧ given.Nodup ∧ ∀ n ∈ given, n ∉ taken := by
  induction specs generalizing position taken given with
  | nil =>
    simp only [namesFrom, Except.ok.injEq, resolved_nil]
    constructor
    · rintro rfl; simp
    · exact fun h => h.1.symm
  | cons spec specs ih =>
    simp only [namesFrom, resolved_cons]
    by_cases hm : nameAt position spec ∈ taken
    · rw [if_pos hm]
      constructor
      · exact fun h => by cases h
      · rintro ⟨rfl, -, hfree⟩
        exact absurd hm (hfree _ (by simp))
    · rw [if_neg hm]
      simp only [Except.bind_eq_ok, Except.pure_eq_ok, ih]
      constructor
      · rintro ⟨others, ⟨rfl, hnodup, hfree⟩, rfl⟩
        refine ⟨rfl, List.nodup_cons.mpr ⟨fun h => hfree _ h (by simp), hnodup⟩, ?_⟩
        intro n hn
        rcases List.mem_cons.mp hn with rfl | hn
        · exact hm
        · exact fun h => hfree n hn (by simp [h])
      · rintro ⟨rfl, hnodup, hfree⟩
        rw [List.nodup_cons] at hnodup
        refine ⟨_, ⟨rfl, hnodup.2, ?_⟩, rfl⟩
        intro n hn h
        rcases List.mem_cons.mp h with rfl | h
        · exact hnodup.1 hn
        · exact hfree n (by simp [hn]) h

/-- Siblings have names exactly when these are distinct and none is reserved. -/
theorem names_eq_ok {reserved : List String} {specs : List AggregateSpec} {given : List String} :
    names reserved specs = .ok given ↔
      given = resolved 0 specs ∧ given.Nodup ∧ ∀ n ∈ given, n ∉ reserved := namesFrom_eq_ok

theorem compileEach_eq_ok {specs : List AggregateSpec} {each : List Aggregation} :
    compileEach specs = .ok each ↔ List.Forall₂
      (fun spec a => compileOne spec = .ok a) specs each := by
  induction specs generalizing each with
  | nil =>
    simp only [compileEach, Except.ok.injEq, List.forall₂_nil_left_iff]
    exact eq_comm
  | cons spec specs ih =>
    simp only [compileEach, Except.bind_eq_ok, Except.pure_eq_ok, ih, List.forall₂_cons_left_iff]
    grind

/-- A forest compiles to its names, each with the aggregation that stands under it. -/
theorem compile_eq_ok {reserved : List String} {specs : List AggregateSpec}
    {forest : List (String × Aggregation)} :
    compile reserved specs = .ok forest ↔
      (resolved 0 specs).Nodup ∧ (∀ n ∈ resolved 0 specs, n ∉ reserved) ∧
        ∃ each, List.Forall₂ (fun spec a => compileOne spec = .ok a) specs each ∧
          forest = (resolved 0 specs).zip each := by
  simp only [compile, Except.bind_eq_ok, Except.pure_eq_ok, names_eq_ok, compileEach_eq_ok]
  constructor
  · rintro ⟨_, ⟨rfl, hnodup, hfree⟩, each, heach, rfl⟩
    exact ⟨hnodup, hfree, each, heach, rfl⟩
  · rintro ⟨hnodup, hfree, each, heach, rfl⟩
    exact ⟨_, ⟨rfl, hnodup, hfree⟩, each, heach, rfl⟩

/-- What a single aggregate needs to compile: one of the functions, one field, and either a readable
limit and children that compile under the keys of a bucket, or no children. -/
theorem compileOne_eq_ok {spec : AggregateSpec} {a : Aggregation} :
    compileOne spec = .ok a ↔ ∃ f field, functionOf? spec.function = some f ∧
      spec.fields = [field] ∧
      if f.isBucketing then ∃ size inner, bucketSize f spec.limit = .ok size ∧
        compile bucketKeys spec.children = .ok inner ∧ a = .buckets field size inner
      else spec.children = [] ∧ a = .metric f field := by
  obtain ⟨function, fields, name, limit, children⟩ := spec
  unfold compileOne
  cases hf : functionOf? function with
  | none => simp
  | some f =>
    match fields with
    | [] => simp
    | _ :: _ :: _ => simp
    | [field] =>
      simp only [Option.some.injEq, List.cons.injEq, and_true, ↓existsAndEq, true_and]
      by_cases hb : f.isBucketing
      · simp only [hb, if_true, Except.bind_eq_ok, Except.pure_eq_ok, compile]
        grind
      · cases children with
        | nil => simp [hb, eq_comm]
        | cons c cs => simp [hb]

theorem exists_spec_of_mem {reserved : List String} {specs : List AggregateSpec}
    {forest : List (String × Aggregation)} (hc : compile reserved specs = .ok forest)
    {p : String × AggregateSpec} (hp : p ∈ named specs) :
    ∃ g, (p.1, g) ∈ forest ∧ compileOne p.2 = .ok g := by
  obtain ⟨-, -, each, heach, rfl⟩ := compile_eq_ok.mp hc
  unfold named at hp
  obtain ⟨i, hi, rfl⟩ := List.mem_iff_getElem.mp hp
  have hlen := heach.length_eq
  rw [List.length_zip, length_resolved] at hi
  have hi' : i < each.length := by omega
  refine ⟨each[i], ?_, ?_⟩
  · rw [List.getElem_zip, List.mem_iff_getElem]
    exact ⟨i, by simp; omega, by rw [List.getElem_zip]⟩
  · rw [List.getElem_zip]
    exact heach.get (by omega) hi'

theorem exists_compileOne {reserved : List String} {specs : List AggregateSpec}
    {forest : List (String × Aggregation)} (hc : compile reserved specs = .ok forest)
    {spec : AggregateSpec} (hm : spec ∈ specs) : ∃ g, compileOne spec = .ok g := by
  have hsnd : (named specs).map (·.2) = specs := List.map_snd_zip (by simp)
  rw [← hsnd] at hm
  obtain ⟨p, hp, rfl⟩ := List.mem_map.mp hm
  obtain ⟨g, -, hg⟩ := exists_spec_of_mem hc hp
  exact ⟨g, hg⟩

theorem keys_compile {reserved : List String} {specs : List AggregateSpec}
    {forest : List (String × Aggregation)} (hc : compile reserved specs = .ok forest) :
    Entries.keys forest = resolved 0 specs := by
  obtain ⟨-, -, each, heach, rfl⟩ := compile_eq_ok.mp hc
  exact List.map_fst_zip (by simp [heach.length_eq])

theorem keys_toEntries (forest : List (String × Aggregation)) :
    Entries.keys (toEntries forest) = Entries.keys forest := by
  induction forest with
  | nil => simp [toEntries]
  | cons e rest ih => rw [toEntries, Entries.keys_cons, Entries.keys_cons, ih]

theorem lookup_compile {reserved : List String} {specs : List AggregateSpec}
    {forest : List (String × Aggregation)} (hc : compile reserved specs = .ok forest)
    {name : String} {g : Aggregation} (hg : (name, g) ∈ forest) :
    forest.lookup name = some g := by
  obtain ⟨hnodup, -, -⟩ := compile_eq_ok.mp hc
  apply Entries.lookup_of_mem _ hg
  rw [keys_compile hc]
  exact hnodup

theorem exists_compile_children {spec : AggregateSpec} {g : Aggregation}
    (hc : compileOne spec = .ok g) :
    ∃ inner, compile bucketKeys spec.children = .ok inner := by
  obtain ⟨f, field, -, -, hrest⟩ := compileOne_eq_ok.mp hc
  by_cases hb : f.isBucketing
  · rw [if_pos hb] at hrest
    obtain ⟨size, inner, -, hinner, -⟩ := hrest
    exact ⟨inner, hinner⟩
  · rw [if_neg hb] at hrest
    rw [hrest.1]
    exact ⟨[], rfl⟩

/-- What is accepted as a whole is accepted at every depth. -/
theorem compileOne_of_within {specs : List AggregateSpec} {spec : AggregateSpec}
    (h : spec.Within specs) {reserved : List String} {forest : List (String × Aggregation)}
    (hc : compile reserved specs = .ok forest) :
    ∃ g, compileOne spec = .ok g := by
  induction h generalizing reserved forest with
  | here hm => exact exists_compileOne hc hm
  | inside hm _ ih =>
    obtain ⟨g, hg⟩ := exists_compileOne hc hm
    obtain ⟨inner, hinner⟩ := exists_compile_children hg
    exact ih hinner

end Aggregation
end SearchSource
