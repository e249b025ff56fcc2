import SearchSource.Result.Inversion
import SearchSource.Proofs.Query.Aggregation
import SearchSource.Proofs.Value
import SearchSource.Proofs.Except

/-! The steps of reading an answer back, one equation for every function. -/
namespace SearchSource

@[simp] theorem lift_fault_ok {α : Type} (a : α) :
    (liftM (.ok a : Except Fault α) : Except Failure α) = .ok a := rfl

@[simp] theorem lift_compileError_ok {α : Type} (a : α) :
    (liftM (.ok a : Except CompileError α) : Except Failure α) = .ok a := rfl

theorem mapM_map_eq_ok {ε α β γ : Type} {k : γ → α} {f : α → Except ε β} {g : γ → β} {xs : List γ}
    (h : ∀ x ∈ xs, f (k x) = .ok (g x)) : (xs.map k).mapM f = .ok (xs.map g) := by
  induction xs with
  | nil => rfl
  | cons x xs ih =>
    rw [List.map_cons, List.mapM_cons, h x (by simp), ih fun y hy => h y (by simp [hy])]
    rfl

namespace Inversion

/-- One bucket as it is given back. -/
def invertBucket (children : List AggregateSpec) (bucket : Value) : Except Failure Value := do
  let entries ← (bucketEntries bucket : Except Fault (Entries Value))
  if children.isEmpty then return Value.object entries
  else
    let given ← (Aggregation.names Aggregation.bucketKeys children :
      Except CompileError (List String))
    let inner ← invertEach children given bucket
    return Value.object (Entries.merge entries inner)

theorem get_orEmpty {v : Value} (h : v.mayBeMapping) (name : String) :
    (orEmpty v).get name = .ok (v.entry name) := by
  cases v with
  | null => rfl
  | object es => cases es <;> rfl
  | keyed k w => rfl
  | _ => cases h

theorem isMapping_orEmpty {v : Value} (h : v.mayBeMapping) : (orEmpty v).isMapping := by
  cases v with
  | null => rfl
  | object es => cases es <;> rfl
  | keyed k w => rfl
  | _ => cases h

theorem bucketsOf_eq {raw : Value} (h : raw.isMapping) {bs : List Value}
    (hl : (raw.entry "buckets").listed? = some bs) : bucketsOf raw = .ok bs := by
  unfold bucketsOf
  rw [Value.get_eq_entry h, Except.bind_ok]
  rcases Value.listed_cases hl with ⟨hholds, helements⟩ | ⟨hholds, rfl⟩
  · rw [if_pos hholds, helements]
  · rw [hholds]
    rfl

theorem invertOne_null (spec : AggregateSpec) : invertOne spec .null = .ok .null := by
  unfold invertOne
  rfl

section Given

variable {spec : AggregateSpec} {raw : Value} (hraw : raw.isMapping)

include hraw

theorem invertOne_count {bs : List Value} (hf : Aggregation.functionOf? spec.function = some .count)
    (hbs : (raw.entry "buckets").listed? = some bs) :
    invertOne spec raw = do
      let inverted ← bs.mapM (invertBucket spec.children)
      return .list inverted := by
  have hof : bucketsOf raw = .ok bs := bucketsOf_eq hraw hbs
  obtain ⟨function, fields, name, limit, children⟩ := spec
  cases raw with
  | null => cases hraw
  | _ =>
    unfold invertOne
    simp only [hf, hof]
    rfl

theorem invertOne_values {bs : List Value}
    (hf : Aggregation.functionOf? spec.function = some .values)
    (hbs : (raw.entry "buckets").listed? = some bs) (hb : ∀ b ∈ bs, b.isMapping) :
    invertOne spec raw = .ok (.list (bs.map (·.entry "key"))) := by
  have hof : bucketsOf raw = .ok bs := bucketsOf_eq hraw hbs
  have hkeys : bs.mapM (·.get "key") = .ok (bs.map (·.entry "key")) := by
    rw [← List.map_id bs, mapM_map_eq_ok (g := (·.entry "key")), List.map_id]
    exact fun b hm => Value.get_eq_entry (hb b hm) "key"
  obtain ⟨function, fields, name, limit, children⟩ := spec
  cases raw with
  | null => cases hraw
  | _ =>
    unfold invertOne
    simp only [hf, hof, lift_fault_ok, Except.bind_ok, hkeys]
    rfl

theorem invertOne_metric {f : AggregateFunction}
    (hf : Aggregation.functionOf? spec.function = some f) (hm : f.isBucketing = false) :
    invertOne spec raw = .ok (raw.entry "value") := by
  have hget : raw.get "value" = .ok (raw.entry "value") := Value.get_eq_entry hraw "value"
  obtain ⟨function, fields, name, limit, children⟩ := spec
  cases raw with
  | null => cases hraw
  | _ => cases f <;> cases hm <;> · unfold invertOne; simp only [hf, hget, lift_fault_ok]

end Given

theorem invertBucket_eq {children : List AggregateSpec} {bucket : Value}
    {entries inner : Entries Value} {given : List String}
    (he : bucketEntries bucket = .ok entries)
    (hn : Aggregation.names Aggregation.bucketKeys children = .ok given)
    (hi : invertEach children given bucket = .ok inner) :
    invertBucket children bucket = .ok (.object (entries.merge inner)) := by
  unfold invertBucket
  rw [he, lift_fault_ok, Except.bind_ok]
  cases children with
  | nil =>
    unfold invertEach at hi
    cases hi
    rfl
  | cons child children =>
    rw [hn, lift_compileError_ok, Except.bind_ok, hi]
    rfl

/-- Siblings are read one by one, each from what stands under its name. -/
theorem invertEach_eq_map {v : Value} (hv : v.mayBeMapping) {f : String → AggregateSpec → Value}
    {specs : List AggregateSpec} {given : List String} (hlen : given.length = specs.length)
    (h : ∀ p ∈ given.zip specs, invertOne p.2 (v.entry p.1) = .ok (f p.1 p.2)) :
    invertEach specs given v = .ok ((given.zip specs).map fun p => (p.1, f p.1 p.2)) := by
  induction specs generalizing given with
  | nil =>
    rw [List.length_nil, List.length_eq_zero_iff] at hlen
    rw [hlen]
    rfl
  | cons spec specs ih =>
    cases given with
    | nil => cases hlen
    | cons name given =>
      rw [List.zip_cons_cons, List.forall_mem_cons] at h
      unfold invertEach
      rw [get_orEmpty hv, lift_fault_ok, Except.bind_ok, h.1, Except.bind_ok,
        ih (Nat.succ.inj hlen) h.2, Except.bind_ok]
      rfl

end Inversion
end SearchSource
