import SearchSource.Proofs.Result.Answer
import SearchSource.Proofs.Result.Inversion

/-! Reading back what the engine answers to compiled aggregates. Main statement:
`invert_of_fits`. -/
namespace SearchSource
namespace Inversion

open Aggregation (compile compileOne resolved named bucketKeys)

/-- If every answer that a forest asks for is there and reads back, so does the whole. -/
theorem invertEach_of_answers {reserved : List String} {specs : List AggregateSpec}
    {forest : List (String × Aggregation)} (hc : compile reserved specs = .ok forest)
    {es : Entries Value} {answers : List (String × Answer)}
    (h : ∀ name g, (name, g) ∈ forest →
      ∃ a, answers.lookup name = some a ∧ es.lookup name = some a.toValue ∧
        ∀ spec, compileOne spec = .ok g → invertOne spec a.toValue = .ok (a.read spec)) :
    invertEach specs (resolved 0 specs) (.object es) = .ok (readForest (named specs) answers) := by
  apply invertEach_eq_map (f :=
    fun name spec => ((answers.lookup name).map fun a => a.read spec).getD .null) rfl
    (Aggregation.length_resolved 0 specs)
  intro p hp
  obtain ⟨g, hg, hone⟩ := Aggregation.exists_spec_of_mem hc hp
  obtain ⟨a, ha, hes, hread⟩ := h p.1 g hg
  rw [Value.entry, hes, ha]
  exact hread p.2 hone

section Bucket

variable {specs : List AggregateSpec} {b : List BucketPart} (hb : IsBucket (resolved 0 specs) b)
  (hfree : ∀ n ∈ resolved 0 specs, n ∉ bucketKeys)

include hb hfree

theorem not_mem_bucketKeys {name : String} {a : Answer} (ha : .inner name a ∈ b) :
    name ∉ bucketKeys :=
  hfree name (hb.inner_mem ha)

theorem count_not_mem_names : "count" ∉ b.map (·.name) := by
  intro h
  obtain ⟨p, hp, hname⟩ := List.mem_map.mp h
  cases p with
  | inner name a =>
    apply not_mem_bucketKeys hb hfree hp
    rw [show name = "count" from hname]
    decide
  | _ => simp [BucketPart.name] at hname

/-- What a bucket keeps, and the key under which its count is put, are distinct. -/
theorem nodup_kept : ((b.map (·.name)).filter (· ≠ "doc_count") ++ ["count"]).Nodup := by
  rw [List.nodup_append]
  refine ⟨hb.nodup.filter _, List.nodup_singleton _, ?_⟩
  intro k hk j hj
  rw [List.mem_singleton.mp hj]
  rintro rfl
  exact count_not_mem_names hb hfree (List.mem_of_mem_filter hk)

theorem bucketEntries_partEntries : bucketEntries (.object (partEntries b)) =
    .ok (Entries.drop "doc_count" (partEntries b) ++ [("count", countOf b)]) := by
  have hcount : (partEntries b).lookup "doc_count" = some (countOf b) :=
    hb.lookup_of_mem hb.count_mem
  have hnew : "count" ∉ Entries.keys (Entries.drop "doc_count" (partEntries b)) := by
    rw [Entries.keys_drop, keys_partEntries]
    exact fun h => count_not_mem_names hb hfree (List.mem_of_mem_filter h)
  simp only [bucketEntries]
  rw [hcount, Option.getD_some, Entries.put_of_not_mem hnew]

omit hb in
theorem lookup_readForest_own {k : String} (hk : k ∈ bucketKeys) :
    (readForest (named specs) (innerOf b)).lookup k = none := by
  rw [Entries.lookup_eq_none, keys_readForest]
  intro hm
  rw [Aggregation.keys_named] at hm
  exact hfree k hm hk

/-- What becomes of one entry of a bucket when the inner answers are put over it. -/
theorem readPart_eq {p : BucketPart} (hp : p ∈ b) :
    readPart (named specs) p = if p.name = "doc_count" then none
      else some (p.name, ((readForest (named specs) (innerOf b)).lookup p.name).getD p.value) := by
  cases p with
  | key v =>
    rw [BucketPart.name, if_neg (by decide), lookup_readForest_own hfree (by decide)]
    rfl
  | keyText v =>
    rw [BucketPart.name, if_neg (by decide), lookup_readForest_own hfree (by decide)]
    rfl
  | count v =>
    rw [BucketPart.name, if_pos rfl]
    rfl
  | inner name a =>
    have hne : name ≠ "doc_count" := by
      rintro rfl
      exact not_mem_bucketKeys hb hfree hp (by decide)
    obtain ⟨child, hchild⟩ := Aggregation.exists_lookup_named (hb.inner_mem hp)
    rw [BucketPart.name, if_neg hne, lookup_readForest hchild (hb.lookup_innerOf hp)]
    simp only [readPart, hchild]
    rfl

theorem readParts_eq_map :
    readParts (named specs) b = (Entries.drop "doc_count" (partEntries b)).map
      fun e => (e.1, ((readForest (named specs) (innerOf b)).lookup e.1).getD e.2) := by
  rw [readParts_eq_filterMap, Entries.drop, partEntries_eq_map, List.filter_map, List.map_map,
    ← List.filterMap_eq_map', ← List.filterMap_eq_filter, List.filterMap_filterMap]
  apply List.filterMap_congr
  intro p hp
  rw [readPart_eq hb hfree hp]
  by_cases hd : p.name = "doc_count"
  · simp [hd, Option.guard]
  · simp [hd, Option.guard]

theorem merge_readForest (hnodup : (resolved 0 specs).Nodup) :
    Entries.merge (Entries.drop "doc_count" (partEntries b) ++ [("count", countOf b)])
      (readForest (named specs) (innerOf b)) = readBucket (named specs) b := by
  have hcount : (readForest (named specs) (innerOf b)).lookup "count" = none :=
    lookup_readForest_own hfree (by decide)
  rw [Entries.merge_eq_map, List.map_append, ← readParts_eq_map hb hfree, List.map_singleton,
    hcount]
  · rfl
  · rw [Entries.keys_append, Entries.keys_drop, keys_partEntries]
    exact nodup_kept hb hfree
  · rw [keys_readForest, Aggregation.keys_named]
    exact hnodup
  · intro name hm
    rw [keys_readForest, Aggregation.keys_named] at hm
    obtain ⟨a, ha⟩ := (hb.inner name).mp hm
    have hne : name ≠ "doc_count" := by
      rintro rfl
      exact hfree _ hm (by decide)
    rw [Entries.keys_append, Entries.keys_drop, keys_partEntries, List.mem_append]
    exact .inl (List.mem_filter.mpr ⟨List.mem_map_of_mem ha, by simpa using hne⟩)

end Bucket

theorem invertBucket_partEntries {spec : AggregateSpec} {inner : List (String × Aggregation)}
    {b : List BucketPart} (hc : compile bucketKeys spec.children = .ok inner)
    (hb : IsBucket (Entries.keys inner) b)
    (h : ∀ name a, .inner name a ∈ b → ∀ g, inner.lookup name = some g →
      ∀ child, compileOne child = .ok g → invertOne child a.toValue = .ok (a.read child)) :
    invertBucket spec.children (.object (partEntries b)) =
      .ok (.object (readBucket (named spec.children) b)) := by
  obtain ⟨hnodup, hfree, -⟩ := Aggregation.compile_eq_ok.mp hc
  have hnames : Aggregation.names bucketKeys spec.children = .ok (resolved 0 spec.children) :=
    Aggregation.names_eq_ok.mpr ⟨rfl, hnodup, hfree⟩
  rw [Aggregation.keys_compile hc] at hb
  have hinner : invertEach spec.children (resolved 0 spec.children) (.object (partEntries b)) =
      .ok (readForest (named spec.children) (innerOf b)) := by
    apply invertEach_of_answers hc
    intro name g hg
    have hasked : name ∈ resolved 0 spec.children :=
      Aggregation.keys_compile hc ▸ List.mem_map_of_mem hg
    obtain ⟨a, ha⟩ := (hb.inner name).mp hasked
    exact ⟨a, hb.lookup_innerOf ha, hb.lookup_of_mem ha,
      h name a ha g (Aggregation.lookup_compile hc hg)⟩
  rw [invertBucket_eq (bucketEntries_partEntries hb hfree) hnames hinner,
    merge_readForest hb hfree hnodup]

theorem entry_key {asked : List String} {b : List BucketPart} (hb : IsBucket asked b) :
    (Value.object (partEntries b)).entry "key" = keyOf b := by
  have hkey : (partEntries b).lookup "key" = some (keyOf b) := hb.lookup_of_mem hb.key_mem
  simp only [Value.entry]
  rw [hkey, Option.getD_some]

section Buckets

variable {spec : AggregateSpec} {items : List (List BucketPart)} {before after : Entries Value}
  (hbefore : "buckets" ∉ before.keys)

include hbefore

theorem listed_buckets : ((Answer.buckets before items after).toValue.entry "buckets").listed? =
    some (items.map fun b => .object (partEntries b)) := by
  rw [Answer.toValue, Value.entry_append hbefore, bucketValues_eq_map]
  rfl

theorem invertOne_counted (hf : Aggregation.functionOf? spec.function = some .count)
    (h : ∀ b ∈ items, invertBucket spec.children (.object (partEntries b)) =
      .ok (.object (readBucket (named spec.children) b))) :
    invertOne spec (Answer.buckets before items after).toValue =
      .ok ((Answer.buckets before items after).read spec) := by
  rw [invertOne_count rfl hf (listed_buckets hbefore), mapM_map_eq_ok h, Except.bind_ok,
    Answer.read, if_neg (by simp [hf]), readBuckets_eq_map]
  rfl

theorem invertOne_listed (hf : Aggregation.functionOf? spec.function = some .values)
    (h : ∀ b ∈ items, (Value.object (partEntries b)).entry "key" = keyOf b) :
    invertOne spec (Answer.buckets before items after).toValue =
      .ok ((Answer.buckets before items after).read spec) := by
  have hmaps : ∀ v ∈ items.map fun b => Value.object (partEntries b), v.isMapping := by
    intro v hv
    obtain ⟨b, -, rfl⟩ := List.mem_map.mp hv
    rfl
  have hkeys :
      (items.map fun b => Value.object (partEntries b)).map (·.entry "key") = items.map keyOf := by
    rw [List.map_map]
    exact List.map_congr_left h
  rw [invertOne_values rfl hf (listed_buckets hbefore) hmaps, hkeys, Answer.read, if_pos hf]

end Buckets

/-- An answer of the shape that a compiled aggregate asks for reads back. -/
theorem invertOne_toValue {g : Aggregation} {a : Answer} (h : a.Fits g) {spec : AggregateSpec}
    (hc : compileOne spec = .ok g) : invertOne spec a.toValue = .ok (a.read spec) := by
  induction h generalizing spec with
  | metric hbefore =>
    obtain ⟨f, field, hf, -, hrest⟩ := Aggregation.compileOne_eq_ok.mp hc
    by_cases hb : f.isBucketing
    · rw [if_pos hb] at hrest
      obtain ⟨size, inner, -, -, hg⟩ := hrest
      cases hg
    · rw [Answer.toValue, invertOne_metric rfl hf (by simpa using hb), Value.entry_append hbefore,
        Answer.read]
  | buckets hbefore shape fits ih =>
    obtain ⟨f, field, hf, -, hrest⟩ := Aggregation.compileOne_eq_ok.mp hc
    by_cases hb : f.isBucketing
    · rw [if_pos hb] at hrest
      obtain ⟨size, inner, -, hinner, hg⟩ := hrest
      cases hg
      cases f with
      | count =>
        apply invertOne_counted hbefore hf
        intro b hm
        apply invertBucket_partEntries hinner (shape b hm)
        intro name a ha g hg child hchild
        exact ih b hm name a ha g hg hchild
      | values => exact invertOne_listed hbefore hf fun b hm => entry_key (shape b hm)
      | min => cases hb
      | max => cases hb
    · rw [if_neg hb] at hrest
      cases hrest.2

/-- No answer inside a bucket takes the place of what the bucket has itself. -/
theorem kept_readBucket {specs : List AggregateSpec} {b : List BucketPart}
    (hb : IsBucket (resolved 0 specs) b) (hfree : ∀ n ∈ resolved 0 specs, n ∉ bucketKeys) :
    Kept (named specs) b (readBucket (named specs) b) := by
  have hkeys : (readBucket (named specs) b).keys =
      (b.map (·.name)).filter (· ≠ "doc_count") ++ ["count"] := by
    rw [readBucket, Entries.keys_append, readParts_eq_map hb hfree, ← keys_partEntries,
      ← Entries.keys_drop]
    simp [Entries.keys]
  have hnodup : (readBucket (named specs) b).keys.Nodup := by
    rw [hkeys]
    exact nodup_kept hb hfree
  have hpart : ∀ p ∈ b, ∀ k v, readPart (named specs) p = some (k, v) →
      (readBucket (named specs) b).lookup k = some v := by
    intro p hp k v hr
    apply Entries.lookup_of_mem hnodup
    rw [readBucket, readParts_eq_filterMap]
    exact List.mem_append_left _ (List.mem_filterMap.mpr ⟨p, hp, hr⟩)
  constructor
  case keys => exact hkeys
  case key => exact fun v hv => hpart _ hv _ _ rfl
  case keyText => exact fun v hv => hpart _ hv _ _ rfl
  case count =>
    intro v hv
    have hv' : (partEntries b).lookup "doc_count" = some v := hb.lookup_of_mem hv
    have hcount : (partEntries b).lookup "doc_count" = some (countOf b) :=
      hb.lookup_of_mem hb.count_mem
    rw [hv'] at hcount
    apply Entries.lookup_of_mem hnodup
    rw [readBucket, ← Option.some.inj hcount]
    exact List.mem_append_right _ (List.mem_singleton_self _)
  case inner =>
    intro name a ha
    obtain ⟨child, hchild⟩ := Aggregation.exists_lookup_named (hb.inner_mem ha)
    exact ⟨child, hchild, hpart _ ha _ _ (by simp only [readPart, hchild])⟩

/-- For aggregates that compile, reading back an answer of the shape that they ask for gives what
each answer stands for, and in every bucket at every depth the key and the count stay what the
engine sent. -/
theorem invert_of_fits {reserved : List String} {specs : List AggregateSpec}
    {forest : List (String × Aggregation)} (hc : compile reserved specs = .ok forest)
    {es : Entries Value} {answers : List (String × Answer)}
    (h : ∀ name g, (name, g) ∈ forest →
      ∃ a, answers.lookup name = some a ∧ es.lookup name = some a.toValue ∧ a.Fits g) :
    invert reserved specs (.object es) = .ok (readForest (named specs) answers) ∧
      ∀ spec : AggregateSpec, spec.Within specs → ∀ b, IsBucket (resolved 0 spec.children) b →
        Kept (named spec.children) b (readBucket (named spec.children) b) := by
  constructor
  · obtain ⟨hnodup, hfree, -⟩ := Aggregation.compile_eq_ok.mp hc
    unfold invert
    rw [Aggregation.names_eq_ok.mpr ⟨rfl, hnodup, hfree⟩, lift_compileError_ok, Except.bind_ok]
    apply invertEach_of_answers hc
    intro name g hg
    obtain ⟨a, ha, hes, hfits⟩ := h name g hg
    exact ⟨a, ha, hes, fun spec hspec => invertOne_toValue hfits hspec⟩
  · intro spec hin b hb
    obtain ⟨g, hg⟩ := Aggregation.compileOne_of_within hin hc
    obtain ⟨inner, hinner⟩ := Aggregation.exists_compile_children hg
    exact kept_readBucket hb (Aggregation.compile_eq_ok.mp hinner).2.1

/-- The documents of every country, with the cities and the largest population inside. -/
def countries : List AggregateSpec :=
  [⟨.text "count", ["country"], some "countries", .null,
    [⟨.text "values", ["city"], none, .null, []⟩,
      ⟨.constant (.function .max), ["population"], some "largest", .null, []⟩]⟩]

def oneCountry : Answer :=
  .buckets [] [[.key (.text "DE"), .count (.int 2),
    .inner "0" (.buckets [("sum_other_doc_count", .int 0)]
      [[.key (.text "Berlin"), .count (.int 1)]] []),
    .inner "largest" (.metric [] (.int 3600000) [("value_as_string", .text "3.6E6")])]] []

theorem fits_oneCountry : oneCountry.Fits (.buckets "country" none
    [("0", .buckets "city" none []), ("largest", .metric .max "population")]) := by
  apply Answer.Fits.buckets (by simp)
  · intro b hb
    rw [List.mem_singleton.mp hb]
    exact ⟨by decide, ⟨.text "DE", by simp⟩, ⟨.int 2, by simp⟩, by simp [exists_or]⟩
  · intro b hb name a ha g hg
    rw [List.mem_singleton.mp hb] at ha
    simp only [List.mem_cons, reduceCtorEq, BucketPart.inner.injEq, List.not_mem_nil, or_false,
      false_or] at ha
    rcases ha with ⟨rfl, rfl⟩ | ⟨rfl, rfl⟩
    · cases hg
      apply Answer.Fits.buckets (by decide)
      · intro b hb
        rw [List.mem_singleton.mp hb]
        exact ⟨by decide, ⟨.text "Berlin", by simp⟩, ⟨.int 1, by simp⟩, by simp⟩
      · intro b hb name a ha g hg
        cases hg
    · cases hg
      exact .metric (by decide)

theorem invert_of_fits_countries :
    ∃ forest, compile [] countries = .ok forest ∧
      (∀ name g, (name, g) ∈ forest → ∃ a, [("countries", oneCountry)].lookup name = some a ∧
        [("countries", oneCountry.toValue)].lookup name = some a.toValue ∧ a.Fits g) ∧
      invert [] countries (.object [("countries", oneCountry.toValue)]) =
        .ok [("countries", .list [.object [("key", .text "DE"), ("0", .list [.text "Berlin"]),
          ("largest", .int 3600000), ("count", .int 2)]])] := by
  have hc : compile [] countries = .ok [("countries", .buckets "country" none
    [("0", .buckets "city" none []), ("largest", .metric .max "population")])] := rfl
  have h : ∀ name g, (name, g) ∈ [("countries", Aggregation.buckets "country" none
      [("0", .buckets "city" none []), ("largest", .metric .max "population")])] →
      ∃ a, [("countries", oneCountry)].lookup name = some a ∧
        [("countries", oneCountry.toValue)].lookup name = some a.toValue ∧ a.Fits g := by
    intro name g hg
    cases List.mem_singleton.mp hg
    exact ⟨oneCountry, rfl, rfl, fits_oneCountry⟩
  exact ⟨_, hc, h, (invert_of_fits hc h).1⟩

end Inversion
end SearchSource
