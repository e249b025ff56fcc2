import SearchSource.Proofs.Result.Readable

/-! What reading an answer leaves alone. Main statement: `invert_touches_requested_only`. -/
namespace SearchSource

open Aggregation (compile compileOne functionOf? resolved named bucketKeys)

namespace Value

/-- The entries of a mapping. -/
def own : Value → Entries Value
  | object es => es
  | _ => []

theorem entry_eq_own (v : Value) (key : String) : v.entry key = (v.own.lookup key).getD null := by
  cases v <;> rfl

theorem entry_of_lookup {es : Entries Value} {key : String} {a : Value}
    (h : es.lookup key = some a) :
    (object es).entry key = a := by
  rw [entry_eq_own, own, h, Option.getD_some]

end Value

namespace Inversion

/-- A bucket `es` that is given back for the bucket `b`. It has the count under another name and the
answers to the children, each under its name, and otherwise what `b` has. -/
structure Framed (children : List AggregateSpec) (b : Value) (es : Entries Value) : Prop where
  keys (k : String) :
    k ∈ es.keys ↔ (k ∈ b.own.keys ∧ k ≠ "doc_count") ∨ k = "count" ∨ k ∈ resolved 0 children
  distinct : b.own.keys.Nodup → es.keys.Nodup
  renamed : "doc_count" ∉ es.keys
  count : es.lookup "count" = some (b.entry "doc_count")
  child : ∀ p ∈ named children, ∃ a, es.lookup p.1 = some a ∧ invertOne p.2 (b.entry p.1) = .ok a
  missing : ∀ name ∈ resolved 0 children, b.entry name = .null → es.lookup name = some .null
  others (k : String) : k ≠ "doc_count" → k ≠ "count" → k ∉ resolved 0 children →
    es.lookup k = b.own.lookup k

end Inversion

open Inversion

/-- What an aggregate makes of an answer: nothing of nothing, and of buckets their keys or the
buckets in their places, each framed and with the answers to the children made in the same way, at
every depth. -/
inductive AggregateSpec.Reads : AggregateSpec → Value → Value → Prop
  | nothing {spec} : Reads spec .null .null
  | count {spec raw bs} {given : Value → Entries Value} (mapping : raw.isMapping)
    (function : functionOf? spec.function = some .count)
    (buckets : (raw.entry "buckets").listed? = some bs)
    (framed : ∀ b ∈ bs, Framed spec.children b (given b))
    (inside : ∀ b ∈ bs, ∀ p ∈ named spec.children,
        Reads p.2 (b.entry p.1) ((Value.object (given b)).entry p.1)) :
    Reads spec raw (.list (bs.map fun b => .object (given b)))
  | values {spec raw bs} (mapping : raw.isMapping)
    (function : functionOf? spec.function = some .values)
    (buckets : (raw.entry "buckets").listed? = some bs) :
      Reads spec raw (.list (bs.map (·.entry "key")))
  | metric {spec raw f} (mapping : raw.isMapping) (function : functionOf? spec.function = some f)
    (metric : f.isBucketing = false) : Reads spec raw (raw.entry "value")

namespace Inversion

/-- Siblings depend on what stands under their names and on nothing else. -/
theorem invertEach_congr {v w : Value} (hv : v.mayBeMapping) (hw : w.mayBeMapping)
    {specs : List AggregateSpec} {given : List String}
    (h : ∀ name ∈ given, w.entry name = v.entry name) :
    invertEach specs given w = invertEach specs given v := by
  induction specs generalizing given with
  | nil =>
    unfold invertEach
    rfl
  | cons spec specs ih =>
    cases given with
    | nil =>
      unfold invertEach
      rfl
    | cons name given =>
      rw [List.forall_mem_cons] at h
      unfold invertEach
      rw [get_orEmpty hv, get_orEmpty hw, h.1, ih h.2]

theorem mem_of_invertEach {v : Value} (hv : v.mayBeMapping) {specs : List AggregateSpec}
    {given : List String} {es : Entries Value} (h : invertEach specs given v = .ok es) :
    ∀ p ∈ given.zip specs, ∃ a, (p.1, a) ∈ es ∧ invertOne p.2 (v.entry p.1) = .ok a := by
  induction specs generalizing given es with
  | nil => simp
  | cons spec specs ih =>
    cases given with
    | nil => simp
    | cons name given =>
      unfold invertEach at h
      rw [get_orEmpty hv, lift_fault_ok, Except.bind_ok] at h
      simp only [Except.bind_eq_ok, Except.pure_eq_ok] at h
      obtain ⟨a, ha, others, hothers, rfl⟩ := h
      rw [List.zip_cons_cons, List.forall_mem_cons]
      refine ⟨⟨a, List.mem_cons_self, ha⟩, fun p hp => ?_⟩
      obtain ⟨b, hb, hp⟩ := ih hothers p hp
      exact ⟨b, List.mem_cons_of_mem _ hb, hp⟩

/-- Siblings that can be read are read, each from what stands under its name. -/
theorem invertEach_answers {v : Value} (hv : v.mayBeMapping) {specs : List AggregateSpec}
    (hnodup : (resolved 0 specs).Nodup)
    (h : ∀ p ∈ named specs, ∃ a, invertOne p.2 (v.entry p.1) = .ok a) :
    ∃ es : Entries Value, invertEach specs (resolved 0 specs) v = .ok es ∧
      es.keys = resolved 0 specs ∧
      ∀ p ∈ named specs, ∃ a, es.lookup p.1 = some a ∧ invertOne p.2 (v.entry p.1) = .ok a := by
  obtain ⟨es, hes, hkeys, -⟩ := invertEach_total hv h
  refine ⟨es, hes, hkeys, fun p hp => ?_⟩
  obtain ⟨a, hm, ha⟩ := mem_of_invertEach hv hes p hp
  exact ⟨a, Entries.lookup_of_mem (hkeys ▸ hnodup) hm, ha⟩

section Bucket

variable {children : List AggregateSpec} {b : Value}

/-- The entries of a bucket, its count under its new name. -/
def recounted (b : Value) : Entries Value :=
  Entries.put "count" (b.entry "doc_count") (b.own.drop "doc_count")

theorem bucketEntries_eq (hb : b.isObject) : bucketEntries b = .ok (recounted b) := by
  cases b with
  | object es => rfl
  | _ => cases hb

theorem lookup_recounted (k : String) :
    (recounted b).lookup k =
      if k = "count" then some (b.entry "doc_count")
      else if k = "doc_count" then none else b.own.lookup k := by
  rw [recounted, Entries.lookup_put, Entries.lookup_drop]

section Merged

variable {inner : Entries Value} (hnodup : (resolved 0 children).Nodup)
  (hkeys : inner.keys = resolved 0 children)

include hnodup hkeys

theorem lookup_merged_of_child {k : String} {a : Value} (h : inner.lookup k = some a) :
    ((recounted b).merge inner).lookup k = some a :=
  Entries.lookup_merge_of_lookup (hkeys ▸ hnodup) h

theorem lookup_merged {k : String} (h : k ∉ resolved 0 children) :
    ((recounted b).merge inner).lookup k =
      if k = "count" then some (b.entry "doc_count")
      else if k = "doc_count" then none else b.own.lookup k := by
  have hnone : inner.lookup k = none := Entries.lookup_eq_none.mpr (hkeys ▸ h)
  rw [Entries.lookup_merge_of_nodup (hkeys ▸ hnodup), hnone, Option.none_or, lookup_recounted]

theorem mem_keys_merged (k : String) :
    k ∈ ((recounted b).merge inner).keys ↔
      (k ∈ b.own.keys ∧ k ≠ "doc_count") ∨ k = "count" ∨ k ∈ resolved 0 children := by
  rw [← not_iff_not, ← Entries.lookup_eq_none]
  by_cases hm : k ∈ resolved 0 children
  · obtain ⟨a, ha⟩ : ∃ a, inner.lookup k = some a := by
      rw [← Option.ne_none_iff_exists', ne_eq, Entries.lookup_eq_none, hkeys, not_not]
      exact hm
    simp [lookup_merged_of_child hnodup hkeys ha, hm]
  · rw [lookup_merged hnodup hkeys hm]
    by_cases hc : k = "count"
    · simp [hc]
    · by_cases hd : k = "doc_count"
      · simp [hd, hd ▸ hm]
      · rw [if_neg hc, if_neg hd, Entries.lookup_eq_none]
        simp [hc, hd, hm]

/-- The answers to the children, whose names are not those of a bucket's own entries, are put over
what the bucket has once its count is renamed. -/
theorem framed_merge (hfree : ∀ n ∈ resolved 0 children, n ∉ bucketKeys)
    (hanswers : ∀ p ∈ named children, ∃ a,
      inner.lookup p.1 = some a ∧ invertOne p.2 (b.entry p.1) = .ok a) :
    Framed children b ((recounted b).merge inner) where
  keys := mem_keys_merged hnodup hkeys
  distinct h := by
    apply Entries.nodup_keys_merge
    apply Entries.nodup_keys_put
    rw [Entries.keys_drop]
    exact h.filter _
  renamed := by
    rw [mem_keys_merged hnodup hkeys]
    have hname : "doc_count" ∉ resolved 0 children := fun hm => hfree _ hm (by decide)
    simp [hname]
  count := by
    have hname : "count" ∉ resolved 0 children := fun hm => hfree _ hm (by decide)
    rw [lookup_merged hnodup hkeys hname, if_pos rfl]
  child p hp := by
    obtain ⟨a, ha, hone⟩ := hanswers p hp
    exact ⟨a, lookup_merged_of_child hnodup hkeys ha, hone⟩
  missing name hname hnull := by
    obtain ⟨spec, hspec⟩ := Aggregation.exists_lookup_named hname
    obtain ⟨a, ha, hone⟩ := hanswers (name, spec) (Entries.mem_of_lookup hspec)
    rw [hnull, invertOne_null] at hone
    rw [lookup_merged_of_child hnodup hkeys ha, Except.ok.inj hone]
  others k hd hc hm := by rw [lookup_merged hnodup hkeys hm, if_neg hc, if_neg hd]

end Merged

theorem invertBucket_framed {inner : List (String × Aggregation)}
    (hc : compile bucketKeys children = .ok inner) (hb : b.isObject)
    (h : ∀ p ∈ named children, ∃ a, invertOne p.2 (b.entry p.1) = .ok a) :
    ∃ es, invertBucket children b = .ok (.object es) ∧ Framed children b es := by
  obtain ⟨hnodup, hfree, -⟩ := Aggregation.compile_eq_ok.mp hc
  obtain ⟨answers, hes, hkeys, hanswers⟩ :=
    invertEach_answers (Value.mayBeMapping_of_isMapping (Value.isMapping_of_isObject hb)) hnodup h
  exact ⟨_, invertBucket_eq (bucketEntries_eq hb)
    (Aggregation.names_eq_ok.mpr ⟨rfl, hnodup, hfree⟩) hes,
    framed_merge hnodup hkeys hfree hanswers⟩

end Bucket

theorem invertOne_reads {spec : AggregateSpec} {v : Value} (h : spec.Admits v) {g : Aggregation}
    (hc : compileOne spec = .ok g) : ∃ a, invertOne spec v = .ok a ∧ spec.Reads v a := by
  induction h generalizing g with
  | @intro spec v bs mapping buckets bucket inner ih =>
    rcases Value.mayBeMapping_cases mapping with rfl | hv
    · exact ⟨.null, invertOne_null spec, .nothing⟩
    obtain ⟨f, field, hf, -, hrest⟩ := Aggregation.compileOne_eq_ok.mp hc
    obtain ⟨forest, hforest⟩ := Aggregation.exists_compile_children hc
    cases f with
    | count =>
      have hchildren (b : Value) (hb : b ∈ bs) (p : String × AggregateSpec)
          (hp : p ∈ named spec.children) :
          ∃ a, invertOne p.2 (b.entry p.1) = .ok a ∧ p.2.Reads (b.entry p.1) a := by
        obtain ⟨g, -, hg⟩ := Aggregation.exists_spec_of_mem hforest hp
        exact ih b hb p hp hg
      have hframed (b : Value) (hb : b ∈ bs) :
          ∃ es, invertBucket spec.children b = .ok (.object es) ∧ Framed spec.children b es :=
        invertBucket_framed hforest (bucket b hb) fun p hp =>
          (hchildren b hb p hp).imp fun _ => And.left
      choose! given hgiven hframe using hframed
      have hbuckets :
          bs.mapM (invertBucket spec.children) = .ok (bs.map fun b => .object (given b)) := by
        simpa using mapM_map_eq_ok (k := id) hgiven
      refine ⟨_, ?_, .count hv hf buckets hframe ?_⟩
      · rw [invertOne_count hv hf buckets, hbuckets]
        rfl
      · intro b hb p hp
        -- the frame and the induction speak of one answer, as reading is a function
        obtain ⟨a, ha, hone⟩ := (hframe b hb).child p hp
        obtain ⟨a', hone', hreads⟩ := hchildren b hb p hp
        cases hone.symm.trans hone'
        rwa [Value.entry_of_lookup ha]
    | values =>
      exact ⟨_, invertOne_values hv hf buckets fun b hb =>
        Value.isMapping_of_isObject (bucket b hb), .values hv hf buckets⟩
    | min => exact ⟨_, invertOne_metric hv hf rfl, .metric hv hf rfl⟩
    | max => exact ⟨_, invertOne_metric hv hf rfl, .metric hv hf rfl⟩

/-- Reading answers gives the names of the aggregates in order, whatever else is in the response,
and every bucket on the way keeps what nobody asked for. -/
theorem invert_touches_requested_only {reserved : List String} {specs : List AggregateSpec}
    {forest : List (String × Aggregation)} (hc : compile reserved specs = .ok forest) {v : Value}
    (hv : v.mayBeMapping) (h : ∀ p ∈ named specs, p.2.Admits (v.entry p.1)) :
    ∃ es, invert reserved specs v = .ok es ∧ es.keys = resolved 0 specs ∧
      (∀ p ∈ named specs, p.2.Reads (v.entry p.1) ((Value.object es).entry p.1)) ∧
      ∀ w : Value, w.mayBeMapping → (∀ name ∈ resolved 0 specs, w.entry name = v.entry name) →
        invert reserved specs w = .ok es := by
  obtain ⟨hnodup, hfree, -⟩ := Aggregation.compile_eq_ok.mp hc
  have hnames : Aggregation.names reserved specs = .ok (resolved 0 specs) :=
    Aggregation.names_eq_ok.mpr ⟨rfl, hnodup, hfree⟩
  have hsiblings (w : Value) : invert reserved specs w = invertEach specs (resolved 0 specs) w := by
    unfold invert
    rw [hnames]
    rfl
  have hreads (p : String × AggregateSpec) (hp : p ∈ named specs) :
      ∃ a, invertOne p.2 (v.entry p.1) = .ok a ∧ p.2.Reads (v.entry p.1) a := by
    obtain ⟨g, -, hg⟩ := Aggregation.exists_spec_of_mem hc hp
    exact invertOne_reads (h p hp) hg
  obtain ⟨es, hes, hkeys, hanswers⟩ :=
    invertEach_answers hv hnodup fun p hp => (hreads p hp).imp fun _ => And.left
  refine ⟨es, (hsiblings v).trans hes, hkeys, ?answers, ?agreeing⟩
  case answers =>
    intro p hp
    obtain ⟨a, ha, hone⟩ := hanswers p hp
    obtain ⟨a', hone', hp⟩ := hreads p hp
    cases hone.symm.trans hone'
    rwa [Value.entry_of_lookup ha]
  case agreeing =>
    intro w hw hagree
    rw [hsiblings, invertEach_congr hv hw hagree, hes]

/-- The cities of every country and a largest area in it. -/
def citiesByCountry : List AggregateSpec :=
  [⟨.text "count", ["country"], some "countries", .null,
    [⟨.text "count", ["city"], some "cities", .null, []⟩,
      ⟨.text "max", ["area"], none, .null, []⟩]⟩]

/-- An answer without an area, with more about a country than was asked for, and with `others`
beside the countries. -/
def countriesBeside (others : Entries Value) : Value :=
  .object (("countries", .object [("buckets", .list [.object [("key", .text "DE"),
    ("doc_count", .int 3),
    ("bg_count", .int 9), ("cities", .object [("buckets",
      .list [.object [("key", .text "Ulm"), ("doc_count", .int 3)]])])]])]) :: others)

theorem admits_countriesBeside (others : Entries Value) :
    ∀ p ∈ named citiesByCountry, p.2.Admits ((countriesBeside others).entry p.1) := by
  intro p hp
  rw [List.mem_singleton.mp (show p ∈ [("countries", citiesByCountry[0])] from hp)]
  refine .intro rfl rfl (by simp [Value.isObject]) fun b hb q hq => ?_
  rw [List.mem_singleton.mp hb]
  have hnamed :
      q ∈ [("cities", citiesByCountry[0].children[0]), ("1", citiesByCountry[0].children[1])] := hq
  rcases List.mem_cons.mp hnamed with rfl | hlast
  · exact .intro rfl rfl (by simp [Value.isObject]) fun _ _ _ hnone =>
      absurd hnone (by simp [citiesByCountry, named])
  · rw [List.mem_singleton.mp hlast]
    exact .intro rfl rfl (by simp) (by simp)

theorem invert_touches_requested_only_citiesByCountry :
    (∃ forest, compile [] citiesByCountry = .ok forest) ∧
      (∀ p ∈ named citiesByCountry, p.2.Admits ((countriesBeside []).entry p.1)) ∧
      ∀ others, invert [] citiesByCountry (countriesBeside others) = .ok [("countries",
        .list [.object
        [("key", .text "DE"), ("bg_count", .int 9), ("cities",
          .list [.object [("key", .text "Ulm"), ("count", .int 3)]]), ("count", .int 3),
            ("1", .null)]])] := by
  have hread : invert [] citiesByCountry (countriesBeside []) = .ok [("countries", .list [.object
      [("key", .text "DE"), ("bg_count", .int 9), ("cities",
        .list [.object [("key", .text "Ulm"), ("count", .int 3)]]), ("count", .int 3),
          ("1", .null)]])] := rfl
  obtain ⟨forest, hc⟩ : ∃ forest, compile [] citiesByCountry = .ok forest := ⟨_, rfl⟩
  obtain ⟨es, hes, -, -, hagreeing⟩ :=
    invert_touches_requested_only hc rfl (admits_countriesBeside [])
  cases hread.symm.trans hes
  refine ⟨⟨forest, hc⟩, admits_countriesBeside [], fun others =>
    hagreeing _ rfl fun name hname => ?_⟩
  rw [List.mem_singleton.mp (show name ∈ ["countries"] from hname)]
  rfl

end Inversion
end SearchSource
