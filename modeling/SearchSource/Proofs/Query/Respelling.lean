import SearchSource.Proofs.Query.Acceptance
import SearchSource.Proofs.Query.NormalForm
import SearchSource.Proofs.Number.Numeral

/-! Limits given as numbers and as texts: only the number zero and its text ask for different
things. Main statement: `compile_respelled_iff`. -/
namespace SearchSource
open SearchSource.Number

theorem Value.asked_toString {n : Int} (hn : n.natAbs < 10 ^ digitLimit) :
    (text (toString n)).asked = some n := by
  have hread := integerOfText?_toString hn
  have hne : toString n ≠ "" := by
    intro he
    rw [he] at hread
    cases hread
  rw [asked, if_neg hne, hread]

def AggregateSpec.withLimit (spec : AggregateSpec) (limit : Value) : AggregateSpec :=
  { spec with limit }

def AggregateSpec.withChildren (spec : AggregateSpec) (children : List AggregateSpec) :
    AggregateSpec :=
  { spec with children }

namespace Aggregation

/-- One limit of buckets in a forest, at any depth, is a number in the first forest and the text of
it in the second. -/
inductive Respelled (n : Int) : List AggregateSpec → List AggregateSpec → Prop
  | here {before after : List AggregateSpec} {spec : AggregateSpec} {f : AggregateFunction}
    (known : functionOf? spec.function = some f) (buckets : f.isBucketing)
    (given : spec.limit = .int n) :
    Respelled n (before ++ spec :: after) (before ++ spec.withLimit (.text (toString n)) :: after)
  | inside {before after children : List AggregateSpec} {spec : AggregateSpec}
    (h : Respelled n spec.children children) :
    Respelled n (before ++ spec :: after) (before ++ spec.withChildren children :: after)

theorem bucketSize_toString (f : AggregateFunction) {n : Int} (hn : n.natAbs < 10 ^ digitLimit) :
    bucketSize f (.text (toString n)) = .ok (some n) := by
  have hreads : (integerOfText? (toString n)).isSome := by
    rw [integerOfText?_toString hn]
    rfl
  have hreadable : (Value.text (toString n)).ReadableLimit := .text rfl (.inr hreads)
  obtain ⟨size, hsize⟩ := bucketSize_of_readable f hreadable
  rw [hsize, eq_asked_of_bucketSize f hsize, Value.asked_toString hn]

theorem resolved_append (position : Nat) (before after : List AggregateSpec) :
    resolved position (before ++ after) =
      resolved position before ++ resolved (position + before.length) after := by
  induction before generalizing position with
  | nil => rfl
  | cons spec before ih =>
    rw [List.cons_append, resolved_cons, ih, resolved_cons, List.cons_append, place_cons]

theorem normalFrom_append (position : Nat) (before after : List AggregateSpec) :
    normalFrom position (before ++ after) =
      normalFrom position before ++ normalFrom (position + before.length) after := by
  induction before generalizing position with
  | nil => rfl
  | cons spec before ih =>
    rw [List.cons_append, normalFrom, ih, normalFrom, List.cons_append, place_cons]

section Replaced

variable {before after : List AggregateSpec} {spec spec' : AggregateSpec}

theorem normalFrom_replaced_iff (hname : spec'.name = spec.name) (position : Nat) :
    normalFrom position (before ++ spec' :: after) = normalFrom position (before ++ spec :: after) ↔
      normalOne (nameAt (position + before.length) spec) spec' =
        normalOne (nameAt (position + before.length) spec) spec := by
  have hat (i : Nat) : nameAt i spec' = nameAt i spec := by rw [nameAt, nameAt, hname]
  rw [normalFrom_append, normalFrom_append, List.append_cancel_left_eq, normalFrom, normalFrom,
    List.cons.injEq, and_iff_left rfl, hat]

/-- An aggregate may be replaced by one of the same name that compiles, too. -/
theorem compile_replaced (hname : spec'.name = spec.name)
    (hone : (∃ a, compileOne spec = .ok a) → ∃ a, compileOne spec' = .ok a) {reserved : List String}
    (h : ∃ forest, compile reserved (before ++ spec :: after) = .ok forest) :
    ∃ forest, compile reserved (before ++ spec' :: after) = .ok forest := by
  have hat (i : Nat) : nameAt i spec' = nameAt i spec := by rw [nameAt, nameAt, hname]
  have hresolved :
      resolved 0 (before ++ spec' :: after) = resolved 0 (before ++ spec :: after) := by
    rw [resolved_append, resolved_append, resolved_cons, resolved_cons, hat]
  rw [compile_accepts] at h ⊢
  obtain ⟨⟨distinct, unreserved⟩, heach⟩ := h
  refine ⟨⟨hresolved ▸ distinct, hresolved ▸ unreserved⟩, ?_⟩
  rw [List.forall_mem_append, List.forall_mem_cons] at heach ⊢
  exact ⟨heach.1, hone heach.2.1, heach.2.2⟩

end Replaced

theorem Respelled.ne_nil {n : Int} {specs specs' : List AggregateSpec}
    (h : Respelled n specs specs') : specs ≠ [] := by
  cases h <;> simp

section Respelled

variable {n : Int} (hn : n.natAbs < 10 ^ digitLimit) {specs specs' : List AggregateSpec}
  (h : Respelled n specs specs')

include hn h

theorem Respelled.normalFrom_eq_iff (position : Nat) :
    normalFrom position specs' = normalFrom position specs ↔ n ≠ 0 := by
  induction h generalizing position with
  | @here before after spec f known buckets given =>
    have hname : (spec.withLimit (.text (toString n))).name = spec.name := rfl
    have hknown : functionOf? (spec.withLimit (.text (toString n))).function = some f := known
    have hlimit : (spec.withLimit (.text (toString n))).limit.asked = some n :=
      Value.asked_toString hn
    rw [normalFrom_replaced_iff hname, normalOne_of_buckets hknown buckets,
      normalOne_of_buckets known buckets, hlimit, given, Value.asked, NormalSpec.mk.injEq]
    by_cases hz : n = 0
    · simp [hz]
    · simp [hz, AggregateSpec.withLimit]
  | @inside before after children spec _ ih =>
    have hname : (spec.withChildren children).name = spec.name := rfl
    rw [normalFrom_replaced_iff hname, ← ih 0]
    obtain ⟨function, fields, name, limit, inner⟩ := spec
    rw [AggregateSpec.withChildren, normalOne, normalOne, NormalSpec.mk.injEq]
    simp

theorem Respelled.compiles {reserved : List String}
    (hc : ∃ forest, compile reserved specs = .ok forest) :
    ∃ forest, compile reserved specs' = .ok forest := by
  induction h generalizing reserved with
  | @here before after spec f known buckets given =>
    have hname : (spec.withLimit (.text (toString n))).name = spec.name := rfl
    refine compile_replaced hname ?_ hc
    rintro ⟨a, ha⟩
    obtain ⟨g, field, hknown, one, hrest⟩ := compileOne_eq_ok.mp ha
    cases Option.some.inj (hknown.symm.trans known)
    rw [if_pos buckets] at hrest
    obtain ⟨size, inner, -, hinner, rfl⟩ := hrest
    refine ⟨.buckets field (some n) inner, compileOne_eq_ok.mpr ⟨f, field, known, one, ?_⟩⟩
    rw [if_pos buckets]
    exact ⟨some n, inner, bucketSize_toString f hn, hinner, rfl⟩
  | @inside before after children spec inner ih =>
    have hname : (spec.withChildren children).name = spec.name := rfl
    refine compile_replaced hname ?_ hc
    rintro ⟨a, ha⟩
    obtain ⟨f, field, known, one, hrest⟩ := compileOne_eq_ok.mp ha
    by_cases hb : f.isBucketing
    · rw [if_pos hb] at hrest
      obtain ⟨size, given, hsize, hgiven, rfl⟩ := hrest
      obtain ⟨respelled, hrespelled⟩ := ih ⟨given, hgiven⟩
      refine ⟨.buckets field size respelled, compileOne_eq_ok.mpr ⟨f, field, known, one, ?_⟩⟩
      rw [if_pos hb]
      exact ⟨size, respelled, hsize, hrespelled, rfl⟩
    · rw [if_neg hb] at hrest
      -- a metric that compiles has no children, so that nothing inside of it is a limit
      exact absurd hrest.1 inner.ne_nil

end Respelled

/-- Spelling out a limit of an accepted forest gives an accepted forest. Its aggregations are the
same exactly if the limit is not zero: the number zero asks for no size, and its text asks for the
size zero. -/
theorem compile_respelled_iff {n : Int} (hn : n.natAbs < 10 ^ digitLimit)
    {specs specs' : List AggregateSpec} (h : Respelled n specs specs') {reserved : List String}
    {forest : List (String × Aggregation)} (hc : compile reserved specs = .ok forest) :
    ∃ forest', compile reserved specs' = .ok forest' ∧
      (toEntries forest' = toEntries forest ↔ n ≠ 0) := by
  obtain ⟨forest', hc'⟩ := h.compiles hn ⟨forest, hc⟩
  have hnormal : normalForm specs' = normalForm specs ↔ n ≠ 0 := h.normalFrom_eq_iff hn 0
  rw [normalForm_eq_origins hc', normalForm_eq_origins hc, origins_inj] at hnormal
  exact ⟨forest', hc', toEntries_inj.trans hnormal⟩

/-- The harbours of each country, a number of them. -/
def harbours (limit : Value) : List AggregateSpec :=
  [⟨.text "count", ["country"], none, .null,
    [⟨.text "values", ["harbour"], some "harbours", limit, []⟩]⟩]

theorem respelled_harbours (n : Int) :
    Respelled n (harbours (.int n)) (harbours (.text (toString n))) := by
  have hinner : Respelled n [⟨.text "values", ["harbour"], some "harbours", .int n, []⟩]
      [⟨.text "values", ["harbour"], some "harbours", .text (toString n), []⟩] :=
    @Respelled.here n [] [] ⟨.text "values", ["harbour"], some "harbours", .int n, []⟩
      .values rfl rfl rfl
  exact @Respelled.inside n [] [] _ ⟨.text "count", ["country"], none, .null, _⟩ hinner

theorem compile_respelled_iff_harbours :
    Int.natAbs (-3) < 10 ^ digitLimit ∧ Respelled (-3) (harbours (.int (-3)))
      (harbours (.text (toString (-3 : Int)))) ∧
      ∃ forest, compile [] (harbours (.int (-3))) = .ok forest ∧
        ∃ forest', compile [] (harbours (.text (toString (-3 : Int)))) = .ok forest' ∧
          (toEntries forest' = toEntries forest ↔ (-3 : Int) ≠ 0) := by
  have hshort : Int.natAbs (-3) < 10 ^ digitLimit := (Json.fits_iff (-3)).mp (by decide)
  have hc : compile [] (harbours (.int (-3))) = .ok _ := rfl
  exact ⟨hshort, respelled_harbours (-3), _, hc,
    compile_respelled_iff hshort (respelled_harbours (-3)) hc⟩

/-- No limit on the one side, and none of the harbours on the other. -/
theorem harbours_differ_at_zero :
    Respelled 0 (harbours (.int 0)) (harbours (.text "0")) ∧
      ∃ forest forest', compile [] (harbours (.int 0)) = .ok forest ∧
        compile [] (harbours (.text "0")) = .ok forest' ∧
        toEntries forest' ≠ toEntries forest := by
  have hnumber : compile [] (harbours (.int 0)) =
      .ok [("0", .buckets "country" none [("harbours", .buckets "harbour" none [])])] := rfl
  have htext : compile [] (harbours (.text "0")) =
      .ok [("0", .buckets "country" none [("harbours", .buckets "harbour" (some 0) [])])] := rfl
  refine ⟨respelled_harbours 0, _, _, hnumber, htext, ?_⟩
  rw [Ne, toEntries_inj]
  simp

end Aggregation
end SearchSource
