import SearchSource.Result.ResultSet
import SearchSource.Proofs.Query.Assembly
import SearchSource.Proofs.Result.Inversion

/-! Reading a response never fails once its request has been assembled. Main statement:
`ofResponse_of_assemble`. -/
namespace SearchSource

open Aggregation (compile compileOne resolved named bucketKeys)

/-- The answers in which an aggregate can look for what it asks: nothing, or a mapping whose
buckets, if any, are objects with such answers to the aggregates inside. -/
inductive AggregateSpec.Admits : AggregateSpec → Value → Prop
  | intro {spec v bs} (mapping : v.mayBeMapping) (buckets : (v.entry "buckets").listed? = some bs)
      (bucket : ∀ b ∈ bs, b.isObject)
      (inner : ∀ b ∈ bs, ∀ p ∈ named spec.children, Admits p.2 (b.entry p.1)) :
      Admits spec v

def IsHit (hit : Value) : Prop := hit.isMapping ∧ (hit.entry "_source").mayBeMapping

/-- A response in which nothing has a wrong type, though anything may be missing. -/
structure WellShaped (specs : List AggregateSpec) (response : Value) : Prop where
  mapping : response.isMapping
  hits : (response.entry "hits").mayBeMapping
  listed : ∃ found, ((response.entry "hits").entry "hits").listed? = some found ∧
    ∀ hit ∈ found, IsHit hit
  aggregations : (response.entry "aggregations").mayBeMapping
  answers : ∀ p ∈ named specs, p.2.Admits ((response.entry "aggregations").entry p.1)

namespace Inversion

/-- If each sibling can be read, they all are, and where nothing stands nothing is read. -/
theorem invertEach_total {v : Value} (hv : v.mayBeMapping) {specs : List AggregateSpec}
    (h : ∀ p ∈ named specs, ∃ r, invertOne p.2 (v.entry p.1) = .ok r) :
    ∃ es : Entries Value, invertEach specs (resolved 0 specs) v = .ok es ∧
      es.keys = resolved 0 specs ∧
      ∀ name ∈ resolved 0 specs, v.entry name = .null → es.lookup name = some .null := by
  let f := fun name spec => ((invertOne spec (v.entry name)).toOption).getD .null
  have heach : invertEach specs (resolved 0 specs) v =
      .ok ((named specs).map fun p => (p.1, f p.1 p.2)) := by
    apply invertEach_eq_map hv (Aggregation.length_resolved 0 specs)
    intro p hp
    obtain ⟨r, hr⟩ := h p hp
    simp only [f, hr]
    rfl
  refine ⟨_, heach, ?_, ?_⟩
  · rw [← Aggregation.keys_named]
    simp [Entries.keys]
  · intro name hname hnull
    obtain ⟨spec, hspec⟩ := Aggregation.exists_lookup_named hname
    rw [Entries.lookup_map f, hspec]
    simp only [f, hnull, invertOne_null]
    rfl

theorem bucketEntries_total {b : Value} (hb : b.isObject) : ∃ es, bucketEntries b = .ok es := by
  cases b with
  | object es => exact ⟨_, rfl⟩
  | _ => cases hb

theorem invertBucket_total {specs : List AggregateSpec} {inner : List (String × Aggregation)}
    (hc : compile bucketKeys specs = .ok inner) {b : Value} (hb : b.isObject)
    (h : ∀ p ∈ named specs, ∃ r, invertOne p.2 (b.entry p.1) = .ok r) :
    ∃ es : Entries Value, invertBucket specs b = .ok (.object es) ∧
      ∀ name ∈ resolved 0 specs, b.entry name = .null → es.lookup name = some .null := by
  obtain ⟨hnodup, hfree, -⟩ := Aggregation.compile_eq_ok.mp hc
  have hnames : Aggregation.names bucketKeys specs = .ok (resolved 0 specs) :=
    Aggregation.names_eq_ok.mpr ⟨rfl, hnodup, hfree⟩
  obtain ⟨own, hown⟩ := bucketEntries_total hb
  obtain ⟨answers, hanswers, hkeys, hnull⟩ :=
    invertEach_total (Value.mayBeMapping_of_isMapping (Value.isMapping_of_isObject hb)) h
  refine ⟨_, invertBucket_eq hown hnames hanswers, ?_⟩
  intro name hname hentry
  rw [← hkeys] at hnodup
  exact Entries.lookup_merge_of_lookup hnodup (hnull name hname hentry)

theorem invertOne_total {spec : AggregateSpec} {v : Value} (h : spec.Admits v) {g : Aggregation}
    (hc : compileOne spec = .ok g) : ∃ r, invertOne spec v = .ok r := by
  induction h generalizing g with
  | @intro spec v bs mapping buckets bucket inner ih =>
    rcases Value.mayBeMapping_cases mapping with rfl | hv
    · exact ⟨_, invertOne_null spec⟩
    obtain ⟨f, field, hf, -, hrest⟩ := Aggregation.compileOne_eq_ok.mp hc
    obtain ⟨forest, hforest⟩ := Aggregation.exists_compile_children hc
    cases f with
    | count =>
      have hone : ∀ b ∈ bs, ∃ r, invertBucket spec.children b = .ok r := by
        intro b hb
        obtain ⟨es, hes, -⟩ := invertBucket_total hforest (bucket b hb) fun p hp => by
          obtain ⟨g, -, hg⟩ := Aggregation.exists_spec_of_mem hforest hp
          exact ih b hb p hp hg
        exact ⟨_, hes⟩
      obtain ⟨rs, hrs⟩ := exists_mapM_eq_ok hone
      refine ⟨.list rs, ?_⟩
      rw [invertOne_count hv hf buckets, hrs]
      rfl
    | values =>
      exact ⟨_, invertOne_values hv hf buckets fun b hb =>
        Value.isMapping_of_isObject (bucket b hb)⟩
    | min => exact ⟨_, invertOne_metric hv hf rfl⟩
    | max => exact ⟨_, invertOne_metric hv hf rfl⟩

/-- Aggregates that compile read every answer they admit, each under its name. -/
theorem invert_total {reserved : List String} {specs : List AggregateSpec}
    {forest : List (String × Aggregation)} (hc : compile reserved specs = .ok forest) {v : Value}
    (hv : v.mayBeMapping) (h : ∀ p ∈ named specs, p.2.Admits (v.entry p.1)) :
    ∃ es : Entries Value, invert reserved specs v = .ok es ∧ es.keys = resolved 0 specs ∧
      ∀ name ∈ resolved 0 specs, v.entry name = .null → es.lookup name = some .null := by
  obtain ⟨hnodup, hfree, -⟩ := Aggregation.compile_eq_ok.mp hc
  unfold invert
  rw [Aggregation.names_eq_ok.mpr ⟨rfl, hnodup, hfree⟩, lift_compileError_ok, Except.bind_ok]
  apply invertEach_total hv
  intro p hp
  obtain ⟨g, -, hg⟩ := Aggregation.exists_spec_of_mem hc hp
  exact invertOne_total (h p hp) hg

end Inversion

theorem Row.pairsOf_total {v : Value} (h : v.isMapping) : ∃ pairs, pairsOf v = .ok pairs := by
  cases v with
  | object es => exact ⟨_, rfl⟩
  | keyed k w => exact ⟨_, rfl⟩
  | _ => cases h

theorem Row.ofHit_total {hit : Value} (h : IsHit hit) : ∃ row, ofHit hit = .ok row := by
  unfold ofHit
  simp only [Value.get_eq_entry h.1, Except.bind_ok]
  split
  · next hholds =>
    rcases Value.mayBeMapping_cases h.2 with hnull | hmapping
    · rw [hnull] at hholds
      cases hholds
    · obtain ⟨pairs, hpairs⟩ := pairsOf_total hmapping
      rw [hpairs, Except.bind_ok]
      exact ⟨_, rfl⟩
  · exact ⟨_, rfl⟩

namespace ResultSet

theorem totalOf_total {hits : Value} (h : hits.isMapping) : ∃ total, totalOf hits = .ok total := by
  unfold totalOf
  rw [Value.get_eq_entry h, Except.bind_ok]
  split <;> exact ⟨_, rfl⟩

theorem has_aggregations (result : ResultSet) :
    Entries.has "aggregations" result.entries ↔ result.aggregations ≠ [] := by
  obtain ⟨rows, total, aggregations⟩ := result
  cases aggregations with
  | nil => simp [entries, Entries.has, List.lookup_cons]
  | cons e es => simp [entries, Entries.has, List.lookup_cons]

/-- A response is read as soon as its aggregations are. -/
theorem ofResponse_total {specs : List AggregateSpec} {response : Value}
    (hw : WellShaped specs response) {answers : Entries Value}
    (ha : Inversion.invert [] specs (response.entry "aggregations") = .ok answers) :
    ∃ rows total, ofResponse response specs = .ok ⟨rows, total, answers⟩ := by
  obtain ⟨found, hfound, hhits⟩ := hw.listed
  obtain ⟨rows, hrows⟩ := exists_mapM_eq_ok fun hit hm => Row.ofHit_total (hhits hit hm)
  obtain ⟨total, htotal⟩ := totalOf_total (Inversion.isMapping_orEmpty hw.hits)
  refine ⟨rows, total, ?_⟩
  unfold ofResponse
  simp only [Value.get_eq_entry hw.mapping, Inversion.get_orEmpty hw.hits, htotal, ha,
    lift_fault_ok, Except.bind_ok]
  have hempty : specs.isEmpty = true → answers = [] := by
    intro he
    rw [List.isEmpty_iff.mp he] at ha
    cases ha
    rfl
  rcases Value.listed_cases hfound with ⟨hholds, helements⟩ | ⟨hholds, rfl⟩
  · simp only [hholds, if_true, helements, lift_fault_ok, Except.bind_ok, hrows]
    split
    · next he =>
      rw [hempty he]
      rfl
    · rfl
  · cases hrows
    simp only [hholds, Bool.false_eq_true, if_false]
    split
    · next he =>
      rw [hempty he]
      rfl
    · rfl

/-- The response to an assembled request is read without failure, as long as it is well shaped: its
aggregations come under the names in the document, with `null` for what is missing, and are given
back exactly if they were asked for. -/
theorem ofResponse_of_assemble {r : SearchRequest} {d : SearchDocument}
    (hd : Assembly.assemble r = .ok d) {response : Value} (hw : WellShaped r.aggregates response) :
    ∃ result, ofResponse response r.aggregates = .ok result ∧
      ((∃ es : Entries Value, d.body.lookup "aggs" = some (.object es) ∧
        result.aggregations.keys = es.keys) ∨
        d.body.lookup "aggs" = none ∧ result.aggregations = []) ∧
      (∀ name ∈ result.aggregations.keys, (response.entry "aggregations").entry name = .null →
        result.aggregations.lookup name = some .null) ∧
      (∀ spec : AggregateSpec, spec.Within r.aggregates → ∀ b : Value, b.isObject →
        (∀ p ∈ named spec.children, p.2.Admits (b.entry p.1)) →
        ∃ es : Entries Value, Inversion.invertBucket spec.children b = .ok (.object es) ∧
          ∀ name ∈ resolved 0 spec.children, b.entry name = .null → es.lookup name = some .null) ∧
      (Entries.has "aggregations" result.entries ↔ r.aggregates ≠ []) := by
  obtain ⟨start, filter, forest, order, -, -, hforest, -, rfl⟩ := Assembly.assemble_eq_ok.mp hd
  obtain ⟨answers, hanswers, hkeys, hnull⟩ :=
    Inversion.invert_total hforest hw.aggregations hw.answers
  obtain ⟨rows, total, hresult⟩ := ofResponse_total hw hanswers
  refine ⟨_, hresult, ?_, ?_, ?_, ?_⟩
  · rw [Assembly.lookup_aggs]
    by_cases he : r.aggregates.isEmpty
    · rw [List.isEmpty_iff] at he
      rw [he] at hanswers
      cases hanswers
      exact .inr ⟨by simp [he], rfl⟩
    · rw [if_neg he]
      exact .inl ⟨_, rfl, by rw [hkeys, Aggregation.keys_toEntries,
        Aggregation.keys_compile hforest]⟩
  · rw [hkeys]
    exact hnull
  · intro spec hin b hb hadmits
    obtain ⟨g, hg⟩ := Aggregation.compileOne_of_within hin hforest
    obtain ⟨inner, hinner⟩ := Aggregation.exists_compile_children hg
    apply Inversion.invertBucket_total hinner hb
    intro p hp
    obtain ⟨g, -, hg⟩ := Aggregation.exists_spec_of_mem hinner hp
    exact Inversion.invertOne_total (hadmits p hp) hg
  · have hlen : answers.length = r.aggregates.length := by
      have hl := congrArg List.length hkeys
      simpa [Entries.keys] using hl
    rw [has_aggregations]
    apply not_congr
    rw [← List.length_eq_zero_iff, ← List.length_eq_zero_iff, hlen]

/-- A search for nothing but the cities of every country and the largest population. -/
def census : SearchRequest where
  index := "towns"
  filter := []
  search := none
  options := .default
  ownQuery := none
  aggregates :=
    [⟨.text "count", ["country"], some "countries", .null,
      [⟨.text "values", ["city"], none, .null, []⟩]⟩,
      ⟨.text "max", ["population"], none, .null, []⟩]
  order := []
  limit := .null
  page := .null
  attributes := []
  explain := none

/-- A response without hits, without cities and without a largest population. -/
def sparse : Value := .object [("aggregations", .object [("countries", .object [("buckets",
  .list [.object [("key", .text "DE"), ("doc_count", .int 2)]])])])]

theorem wellShaped_sparse : WellShaped census.aggregates sparse := by
  have hmissing : ∀ spec : AggregateSpec, spec.Admits .null := fun spec =>
    .intro rfl rfl (by simp) (by simp)
  refine ⟨rfl, rfl, ⟨[], rfl, by simp⟩, rfl, ?_⟩
  intro p hp
  have hnamed : p ∈ [("countries", census.aggregates[0]), ("1", census.aggregates[1])] := hp
  rcases List.mem_cons.mp hnamed with rfl | hlast
  · apply AggregateSpec.Admits.intro rfl rfl (by simp [Value.isObject])
    intro b hb q hq
    rw [List.mem_singleton.mp hb]
    rw [List.mem_singleton.mp (show q ∈ [("0", census.aggregates[0].children[0])] from hq)]
    exact hmissing _
  · rw [List.mem_singleton.mp hlast]
    exact hmissing _

theorem ofResponse_of_assemble_census :
    ∃ d result, Assembly.assemble census = .ok d ∧ WellShaped census.aggregates sparse ∧
      ofResponse sparse census.aggregates = .ok result ∧
      result.aggregations.keys = ["countries", "1"] ∧
      result.aggregations.lookup "1" = some .null ∧ Entries.has "aggregations" result.entries := by
  obtain ⟨d, hd, haggs⟩ : ∃ d, Assembly.assemble census = .ok d ∧
      d.body.lookup "aggs" = some (.object (Aggregation.toEntries
        [("countries", .buckets "country" none [("0", .buckets "city" none [])]),
          ("1", .metric .max "population")])) :=
    ⟨_, rfl, rfl⟩
  obtain ⟨result, hresult, hkeys, hnull, -, hhas⟩ := ofResponse_of_assemble hd wellShaped_sparse
  rw [haggs] at hkeys
  have hnames : result.aggregations.keys = ["countries", "1"] := by
    rcases hkeys with ⟨es, hes, hsame⟩ | ⟨hnone, -⟩
    · cases hes
      exact hsame
    · cases hnone
  exact ⟨d, result, hd, wellShaped_sparse, hresult, hnames, hnull "1" (by simp [hnames]) rfl,
    hhas.mpr (by simp [census])⟩

end ResultSet
end SearchSource
