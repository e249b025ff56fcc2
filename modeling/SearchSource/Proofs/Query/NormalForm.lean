import SearchSource.Proofs.Query.Aggregation
import SearchSource.Proofs.Query.Limit

/-! What a compiled forest keeps of the aggregates that it is made of. Main statement:
`compiled_eq_iff`. -/
namespace SearchSource

/-- What a function computes: buckets, which a count and a list of values have alike, or one
metric. -/
inductive Computed
  | buckets
  | metric (f : AggregateFunction)

def AggregateFunction.computed (f : AggregateFunction) : Computed :=
  if f.isBucketing then .buckets else .metric f

theorem AggregateFunction.word_injective : Function.Injective word := by
  intro f g h
  have hread := congrArg ofWord? h
  rw [ofWord?_word, ofWord?_word] at hread
  exact Option.some.inj hread

/-- An aggregate under the name that it has among its siblings. -/
structure NormalSpec where
  name : String
  computes : Option Computed
  fields : List String
  limit : Option Int
  children : List NormalSpec

namespace Aggregation

mutual

/-- The limit of a metric is forgotten, as a metric has no buckets. -/
def normalOne (name : String) : AggregateSpec → NormalSpec
  | ⟨function, fields, _, limit, children⟩ =>
    let computes := (functionOf? function).map AggregateFunction.computed
    { name, computes, fields
      limit := match computes with
        | some .buckets => limit.asked
        | _ => none
      children := normalFrom 0 children }

def normalFrom (position : Nat) : List AggregateSpec → List NormalSpec
  | [] => []
  | spec :: specs => normalOne (nameAt position spec) spec :: normalFrom (position + 1) specs

end

/-- What a list of siblings asks for: every name resolved, every limit read, and buckets told from
metrics only. -/
def normalForm (specs : List AggregateSpec) : List NormalSpec := normalFrom 0 specs

theorem normalOne_of_buckets {spec : AggregateSpec} {f : AggregateFunction}
    (known : functionOf? spec.function = some f) (buckets : f.isBucketing) (name : String) :
    normalOne name spec =
      ⟨name, some .buckets, spec.fields, spec.limit.asked, normalForm spec.children⟩ := by
  obtain ⟨function, fields, given, limit, children⟩ := spec
  dsimp only at known
  rw [normalOne, known, Option.map_some, AggregateFunction.computed, if_pos buckets]
  rfl

theorem normalOne_of_metric {spec : AggregateSpec} {f : AggregateFunction}
    (known : functionOf? spec.function = some f) (metric : ¬ f.isBucketing) (name : String) :
    normalOne name spec =
      ⟨name, some (.metric f), spec.fields, none, normalForm spec.children⟩ := by
  obtain ⟨function, fields, given, limit, children⟩ := spec
  dsimp only at known
  rw [normalOne, known, Option.map_some, AggregateFunction.computed, if_neg metric]
  rfl

mutual

/-- The aggregate that an aggregation under a name comes from. -/
def origin (name : String) : Aggregation → NormalSpec
  | buckets field size inner => ⟨name, some .buckets, [field], size, origins inner⟩
  | metric f field => ⟨name, some (.metric f), [field], none, []⟩

def origins : List (String × Aggregation) → List NormalSpec
  | [] => []
  | (name, a) :: rest => origin name a :: origins rest

end

mutual

theorem origin_injective {name name' : String} :
    ∀ {a b : Aggregation}, origin name a = origin name' b → name = name' ∧ a = b
  | .buckets field size inner, .buckets field' size' inner', h => by
    simp only [origin, NormalSpec.mk.injEq, List.cons.injEq, and_true, true_and] at h
    obtain ⟨rfl, rfl, rfl, hinner⟩ := h
    rw [origins_injective hinner]
    exact ⟨rfl, rfl⟩
  | .buckets .., .metric .., h => by simp [origin] at h
  | .metric .., .buckets .., h => by simp [origin] at h
  | .metric f field, .metric g field', h => by simpa [origin] using h

theorem origins_injective : ∀ {as bs : List (String × Aggregation)},
    origins as = origins bs → as = bs
  | [], [], _ => rfl
  | [], _ :: _, h => by simp [origins] at h
  | _ :: _, [], h => by simp [origins] at h
  | (name, a) :: as, (name', b) :: bs, h => by
    rw [origins, origins, List.cons.injEq] at h
    obtain ⟨rfl, rfl⟩ := origin_injective h.1
    rw [origins_injective h.2]

end

/-- The entries of a bucket aggregation, of which two may be missing. -/
def bucketSlots (field : String) (size : Option Int) (inner : List (String × Aggregation)) :
    Entries (Option Value) :=
  [("field", some (.text field)), ("size", size.map .int),
    ("aggs", if inner.isEmpty then none else some (.object (toEntries inner)))]

theorem toValue_buckets (field : String) (size : Option Int) (inner : List (String × Aggregation)) :
    toValue (.buckets field size inner) =
      .object [("terms", .object (Entries.present (bucketSlots field size inner)))] := by
  rw [toValue]
  cases size <;> cases inner <;> rfl

theorem nodup_keys_bucketSlots (field : String) (size : Option Int)
    (inner : List (String × Aggregation)) :
    (bucketSlots field size inner).keys.Nodup := by
  change ["field", "size", "aggs"].Nodup
  decide

/-- The parts of a bucket aggregation are found again under their keys. -/
theorem bucketSlots_eq {field field' : String} {size size' : Option Int}
    {inner inner' : List (String × Aggregation)}
    (h : Entries.present (bucketSlots field size inner) =
      Entries.present (bucketSlots field' size' inner')) :
    field = field' ∧ size = size' ∧ toEntries inner = toEntries inner' := by
  have hslots (key : String) : ((bucketSlots field size inner).lookup key).join =
      ((bucketSlots field' size' inner').lookup key).join := by
    rw [← Entries.lookup_present (nodup_keys_bucketSlots ..),
      ← Entries.lookup_present (nodup_keys_bucketSlots ..), h]
  have hfield : some (Value.text field) = some (.text field') := hslots "field"
  have hsize : size.map Value.int = size'.map Value.int := hslots "size"
  have hinner : (if inner.isEmpty then none else some (Value.object (toEntries inner))) =
      if inner'.isEmpty then none else some (.object (toEntries inner')) := hslots "aggs"
  refine ⟨by simpa using hfield, ?_, ?_⟩
  · exact Option.map_injective (fun _ _ => Value.int.inj) hsize
  · cases inner with
    | nil =>
      cases inner' with
      | nil => rfl
      | cons e rest => cases hinner
    | cons e rest =>
      cases inner' with
      | nil => cases hinner
      | cons e' rest' => exact Value.object.inj (Option.some.inj hinner)

mutual

theorem toValue_injective : ∀ {a b : Aggregation}, toValue a = toValue b → a = b
  | .buckets field size inner, .buckets field' size' inner', h => by
    rw [toValue_buckets, toValue_buckets] at h
    simp only [Value.object.injEq, List.cons.injEq, Prod.mk.injEq, true_and, and_true] at h
    obtain ⟨rfl, rfl, hinner⟩ := bucketSlots_eq h
    rw [toEntries_injective hinner]
  | .buckets .., .metric f _, h => by
    -- no function is called by the key under which buckets stand
    rw [toValue, toValue] at h
    cases f <;> simp [AggregateFunction.word] at h
  | .metric f _, .buckets .., h => by
    rw [toValue, toValue] at h
    cases f <;> simp [AggregateFunction.word] at h
  | .metric f field, .metric g field', h => by
    simp only [toValue, Value.object.injEq, List.cons.injEq, Prod.mk.injEq, true_and, and_true,
      Value.text.injEq] at h
    rw [AggregateFunction.word_injective h.1, h.2]

/-- The form in which aggregations are sent tells them apart, at every depth and in their order. -/
theorem toEntries_injective : ∀ {as bs : List (String × Aggregation)},
    toEntries as = toEntries bs → as = bs
  | [], [], _ => rfl
  | [], _ :: _, h => by simp [toEntries] at h
  | _ :: _, [], h => by simp [toEntries] at h
  | (name, a) :: as, (name', b) :: bs, h => by
    simp only [toEntries, List.cons.injEq, Prod.mk.injEq] at h
    rw [h.1.1, toValue_injective h.1.2, toEntries_injective h.2]

end

theorem toEntries_inj {as bs : List (String × Aggregation)} :
    toEntries as = toEntries bs ↔ as = bs :=
  ⟨toEntries_injective, fun h => congrArg toEntries h⟩

theorem origins_inj {as bs : List (String × Aggregation)} : origins as = origins bs ↔ as = bs :=
  ⟨origins_injective, fun h => congrArg origins h⟩

theorem normalOne_eq_origin {spec : AggregateSpec} {a : Aggregation} (h : compileOne spec = .ok a)
    (ih : ∀ inner, compile bucketKeys spec.children = .ok inner →
      normalForm spec.children = origins inner)
    (name : String) : normalOne name spec = origin name a := by
  obtain ⟨f, field, known, one, hrest⟩ := compileOne_eq_ok.mp h
  by_cases hb : f.isBucketing
  · rw [if_pos hb] at hrest
    obtain ⟨size, inner, hsize, hinner, rfl⟩ := hrest
    rw [normalOne_of_buckets known hb, origin, one, eq_asked_of_bucketSize f hsize, ih inner hinner]
  · rw [if_neg hb] at hrest
    obtain ⟨hchildren, rfl⟩ := hrest
    rw [normalOne_of_metric known hb, origin, one, hchildren]
    rfl

theorem normalFrom_eq_origins {specs : List AggregateSpec} {each : List Aggregation}
    (h : List.Forall₂ (fun spec a => compileOne spec = .ok a) specs each)
    (ih : ∀ spec ∈ specs, ∀ inner, compile bucketKeys spec.children = .ok inner →
      normalForm spec.children = origins inner) (position : Nat) :
    normalFrom position specs = origins ((resolved position specs).zip each) := by
  induction h generalizing position with
  | nil => rfl
  | cons hone _ ihrest =>
    obtain ⟨hspec, hspecs⟩ := List.forall_mem_cons.mp ih
    rw [normalFrom, resolved_cons, List.zip_cons_cons, origins, normalOne_eq_origin hone hspec,
      ihrest hspecs]

/-- A forest that compiles is, in its normal form, what its aggregations come from. -/
theorem normalForm_eq_origins {reserved : List String} {specs : List AggregateSpec}
    {forest : List (String × Aggregation)} (h : compile reserved specs = .ok forest) :
    normalForm specs = origins forest := by
  induction specs using AggregateSpec.forest_induction generalizing reserved forest with
  | step specs ih =>
    obtain ⟨-, -, each, heach, rfl⟩ := compile_eq_ok.mp h
    exact normalFrom_eq_origins heach (fun spec hm inner hinner => ih spec hm hinner) 0

/-- Forests that compile have the same aggregations, as ordered mappings at every level, exactly if
they have the same normal form. -/
theorem compiled_eq_iff {reserved reserved' : List String} {specs specs' : List AggregateSpec}
    {forest forest' : List (String × Aggregation)} (h : compile reserved specs = .ok forest)
    (h' : compile reserved' specs' = .ok forest') :
    toEntries forest = toEntries forest' ↔ normalForm specs = normalForm specs' := by
  rw [normalForm_eq_origins h, normalForm_eq_origins h', toEntries_inj, origins_inj]

/-- The largest harbours, counted. -/
def harbourCounts : List AggregateSpec :=
  [⟨.text "count", ["harbour"], none, .text " 5 ",
    [⟨.text "max", ["draught"], some "deepest", .text "any", []⟩]⟩]

/-- The same harbours, listed: named by their position, with the limit as a number and none
below. -/
def harbourList : List AggregateSpec :=
  [⟨.constant (.function .values), ["harbour"], some "0", .int 5,
    [⟨.text "max", ["draught"], some "deepest", .null, []⟩]⟩]

theorem compiled_eq_iff_harbours :
    ∃ forest forest', compile [] harbourCounts = .ok forest ∧
      compile ["key"] harbourList = .ok forest' ∧
      (toEntries forest = toEntries forest' ↔
        normalForm harbourCounts = normalForm harbourList) := by
  have hcounts : compile [] harbourCounts = .ok _ := rfl
  have hlist : compile ["key"] harbourList = .ok _ := rfl
  exact ⟨_, _, hcounts, hlist, compiled_eq_iff hcounts hlist⟩

example : normalForm harbourCounts = normalForm harbourList := rfl

end Aggregation
end SearchSource
