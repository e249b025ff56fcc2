import SearchSource.Query.Assembly
import SearchSource.Proofs.Query.Aggregation

/-! What it takes for a request to be assembled, and what is in its document. -/
namespace SearchSource
namespace Assembly

/-- How many hits are passed over, if the request is for a page. -/
def startOf (r : SearchRequest) : Except CompileError (Option Value) :=
  if r.page.holds then some <$> (pageStart r.page (pageSize r.limit) : Except Fault Value)
  else pure none

def orderOf (r : SearchRequest) : Except CompileError (Option (List Value)) :=
  if r.order.isEmpty then pure none
  else some <$> (sort r.order r.options.sortMap : Except Fault (List Value))

def countOnly (r : SearchRequest) : Bool := !r.aggregates.isEmpty && !r.limit.holds

/-- The body of a document made of its compiled parts. -/
def bodyOf (r : SearchRequest) (start : Option Value) (filter : Option Query)
    (forest : List (String × Aggregation)) (order : Option (List Value)) : Entries Value :=
  [("size", .int (if countOnly r then 0 else pageSize r.limit))] ++
    (start.map fun v => ("from", v)).toList ++
    ((joinQuery filter (textPart r)).map fun q => ("query", q)).toList ++
    (if r.aggregates.isEmpty then [] else [("aggs", .object (Aggregation.toEntries forest))]) ++
    (order.map fun vs => ("sort", Value.list vs)).toList

/-- The parts of a document in the order in which they are made. -/
theorem assemble_eq (r : SearchRequest) :
    assemble r = do
      let start ← startOf r
      let filter ← Filter.compile r.filter
      let forest ← Aggregation.compile [] r.aggregates
      let order ← orderOf r
      return ⟨r.index, bodyOf r start filter forest order, source r.attributes,
        if countOnly r then some SearchDocument.countType else none⟩ := by
  unfold assemble startOf orderOf
  by_cases hp : r.page.holds <;> by_cases ho : r.order.isEmpty <;> simp only [hp, ho] <;> rfl

theorem assemble_eq_ok {r : SearchRequest} {d : SearchDocument} :
    assemble r = .ok d ↔ ∃ start filter forest order, startOf r = .ok start ∧
      Filter.compile r.filter = .ok filter ∧ Aggregation.compile [] r.aggregates = .ok forest ∧
      orderOf r = .ok order ∧
      d = ⟨r.index, bodyOf r start filter forest order, source r.attributes,
        if countOnly r then some SearchDocument.countType else none⟩ := by
  rw [assemble_eq]
  simp only [Except.bind_eq_ok, Except.pure_eq_ok]
  constructor
  · rintro ⟨start, hstart, filter, hfilter, forest, hforest, order, horder, rfl⟩
    exact ⟨start, filter, forest, order, hstart, hfilter, hforest, horder, rfl⟩
  · rintro ⟨start, filter, forest, order, hstart, hfilter, hforest, horder, rfl⟩
    exact ⟨start, hstart, filter, hfilter, forest, hforest, order, horder, rfl⟩

section Body

variable (r : SearchRequest) (start : Option Value) (filter : Option Query)
  (forest : List (String × Aggregation))
  (order : Option (List Value))

/-- The keys that a body may have, each with what stands under it if anything does. -/
def slotsOf : Entries (Option Value) :=
  [("size", some (.int (if countOnly r then 0 else pageSize r.limit))),
    ("from", start),
    ("query", joinQuery filter (textPart r)),
    ("aggs", if r.aggregates.isEmpty then none else some (.object (Aggregation.toEntries forest))),
    ("sort", order.map .list)]

theorem bodyOf_eq_present :
    bodyOf r start filter forest order = Entries.present (slotsOf r start filter forest order) := by
  unfold bodyOf slotsOf
  cases start <;> cases joinQuery filter (textPart r) <;> cases order <;>
    by_cases h : r.aggregates.isEmpty <;> simp [h, Entries.present]

theorem nodup_keys_slotsOf : (slotsOf r start filter forest order).keys.Nodup := by
  change ["size", "from", "query", "aggs", "sort"].Nodup
  decide

theorem lookup_size :
    (bodyOf r start filter forest order).lookup "size" =
      some (.int (if countOnly r then 0 else pageSize r.limit)) := by
  rw [bodyOf_eq_present, Entries.lookup_present (nodup_keys_slotsOf ..)]
  rfl

theorem lookup_from : (bodyOf r start filter forest order).lookup "from" = start := by
  rw [bodyOf_eq_present, Entries.lookup_present (nodup_keys_slotsOf ..)]
  rfl

theorem lookup_query :
    (bodyOf r start filter forest order).lookup "query" = joinQuery filter (textPart r) := by
  rw [bodyOf_eq_present, Entries.lookup_present (nodup_keys_slotsOf ..)]
  rfl

theorem lookup_aggs :
    (bodyOf r start filter forest order).lookup "aggs" =
      if r.aggregates.isEmpty then none else some (.object (Aggregation.toEntries forest)) := by
  rw [bodyOf_eq_present, Entries.lookup_present (nodup_keys_slotsOf ..)]
  exact Option.join_some

theorem put_from (v w : Value) :
    (bodyOf r (some v) filter forest order).put "from" w =
      bodyOf r (some w) filter forest order := by
  simp [bodyOf, Entries.put]

theorem drop_from (v : Value) :
    (bodyOf r (some v) filter forest order).drop "from" = bodyOf r none filter forest order := by
  unfold bodyOf
  cases joinQuery filter (textPart r) <;> cases order <;>
    by_cases h : r.aggregates.isEmpty <;> simp [Entries.drop, h]

end Body

end Assembly
end SearchSource
