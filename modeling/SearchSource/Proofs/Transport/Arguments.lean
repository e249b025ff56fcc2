import SearchSource.Transport
import SearchSource.Proofs.Query.Assembly

/-! The arguments of the client's search for a document that was assembled: they hold all of it and
nothing else. Main statement: `arguments_hold_document`. -/
namespace SearchSource

namespace SearchDocument

/-- The keys that bodies have, in their order. -/
def bodyKeys : List String := ["size", "from", "query", "aggs", "sort"]

/-- The name of the argument for a key; `from` is a word of the client's language. -/
def argumentName (key : String) : String := if key = "from" then "from_" else key

/-- The search type of a body: one with aggregations and of size zero wants no hits. -/
def typeFor (aggs size : Option Value) : Option String :=
  match aggs, size with
  | some _, some (.int 0) => some countType
  | _, _ => none

theorem typeFor_eq_count {aggs size : Option Value} :
    typeFor aggs size = some "count" ↔ aggs ≠ none ∧ size = some (.int 0) := by
  unfold typeFor
  split
  · simp [countType]
  · next hno =>
    refine iff_of_false nofun ?_
    rintro ⟨ha, hs⟩
    obtain ⟨v, hv⟩ := Option.ne_none_iff_exists'.mp ha
    exact hno v hv hs

/-- The texts that a list holds. -/
def textsOf? (v : Value) : Option (List String) :=
  v.asSequence?.bind fun vs => vs.mapM Value.asText?

theorem textsOf?_texts (ss : List String) : textsOf? (texts ss) = some ss := by
  change (ss.map Value.text).mapM Value.asText? = some ss
  induction ss with
  | nil => rfl
  | cons s ss ih => simp [Value.asText?, ih]

/-- The document that a client's search is called for. -/
def ofArguments? (args : Entries Value) : Option SearchDocument := do
  let index ← (args.lookup "index").bind Value.asText?
  let source ← match args.lookup "source" with
    | none => some none
    | some paths => (textsOf? paths).map some
  let body := Entries.present (bodyKeys.map fun key => (key, args.lookup (argumentName key)))
  return ⟨index, body, source, typeFor (args.lookup "aggs") (args.lookup "size")⟩

end SearchDocument

namespace Assembly
open SearchDocument (bodyKeys typeFor)

/-- A limit that holds is no limit to zero hits. -/
theorem pageSize_ne_zero {limit : Value} (h : limit.holds) : pageSize limit ≠ 0 := by
  cases limit with
  | int n => simpa [Value.holds, pageSize] using h
  | _ => exact (by decide : fallbackSize ≠ 0)

variable {r : SearchRequest} {d : SearchDocument} (h : assemble r = .ok d)

include h

/-- A body has some of its keys, in their order. -/
theorem body_of_assemble :
    d.body = Entries.present (bodyKeys.map fun key => (key, d.body.lookup key)) := by
  obtain ⟨start, filter, forest, order, -, -, -, -, rfl⟩ := assemble_eq_ok.mp h
  simp only [bodyOf_eq_present, Entries.lookup_present (nodup_keys_slotsOf ..)]
  rfl

/-- The search type can be told from the body. -/
theorem searchType_of_assemble :
    d.searchType = typeFor (d.body.lookup "aggs") (d.body.lookup "size") := by
  obtain ⟨start, filter, forest, order, -, -, -, -, rfl⟩ := assemble_eq_ok.mp h
  simp only [bodyOf_eq_present, Entries.lookup_present (nodup_keys_slotsOf ..)]
  change (if countOnly r then some SearchDocument.countType else none) =
    typeFor (if r.aggregates.isEmpty then none else some (.object (Aggregation.toEntries forest)))
      (some (.int (if countOnly r then 0 else pageSize r.limit)))
  by_cases ha : r.aggregates.isEmpty
  · simp [countOnly, ha, typeFor]
  · by_cases hl : r.limit.holds
    · have hne := pageSize_ne_zero hl
      simp only [countOnly, ha, hl, typeFor]
      grind
    · simp [countOnly, ha, hl, typeFor]

end Assembly

namespace Transport
open SearchDocument (argumentName bodyKeys)

/-- The search type that is handed on, if the engine has it. -/
def typeHandedOn? (d : SearchDocument) : Option Value :=
  match d.searchType with
  | some t => if t = "" ∨ t ∈ legacySearchTypes then none else some (.text t)
  | none => none

/-- The arguments that a search may have, each with what it takes if anything. -/
def argumentSlots (d : SearchDocument) : Entries (Option Value) :=
  [("index", some (.text d.index)), ("query", d.body.lookup "query"),
    ("aggs", d.body.lookup "aggs"),
    ("sort", d.body.lookup "sort"), ("from_", d.body.lookup "from"), ("size", d.body.lookup "size"),
    ("source", d.source.map SearchDocument.texts), ("search_type", typeHandedOn? d)]

theorem arguments_eq_present (d : SearchDocument) :
    arguments d = Entries.present (argumentSlots d) := by
  have hsplit : argumentSlots d = [("index", some (.text d.index))] ++
      bodyArguments.map (fun p => (p.2, d.body.lookup p.1)) ++
      [("source", d.source.map SearchDocument.texts)] ++ [("search_type", typeHandedOn? d)] := rfl
  have htype : (match d.searchType with
      | some t => if t = "" ∨ t ∈ legacySearchTypes then [] else [("search_type", Value.text t)]
      | none => []) = Entries.present [("search_type", typeHandedOn? d)] := by
    unfold typeHandedOn?
    cases d.searchType with
    | none => rfl
    | some t =>
      dsimp only
      split <;> rfl
  have hsource : (d.source.map fun s => ("source", SearchDocument.texts s)).toList =
      Entries.present [("source", d.source.map SearchDocument.texts)] := by cases d.source <;> rfl
  rw [hsplit]
  simp only [Entries.present_append, ← hsource, ← htype]
  rw [arguments]
  rfl

theorem nodup_keys_argumentSlots (d : SearchDocument) : (argumentSlots d).keys.Nodup := by
  change ["index", "query", "aggs", "sort", "from_", "size", "source", "search_type"].Nodup
  decide

theorem lookup_arguments (d : SearchDocument) (k : String) :
    (arguments d).lookup k = ((argumentSlots d).lookup k).join := by
  rw [arguments_eq_present, Entries.lookup_present (nodup_keys_argumentSlots d)]

/-- What stands under a key of a body is handed on under the name for it. -/
theorem lookup_argumentName (d : SearchDocument) {key : String} (hk : key ∈ bodyKeys) :
    (arguments d).lookup (argumentName key) = d.body.lookup key := by
  rw [lookup_arguments]
  simp only [bodyKeys, List.mem_cons, List.not_mem_nil, or_false] at hk
  rcases hk with rfl | rfl | rfl | rfl | rfl <;> rfl

section Assembled

variable {r : SearchRequest} {d : SearchDocument} (h : Assembly.assemble r = .ok d)

include h

theorem mem_body_iff {key : String} {v : Value} :
    (key, v) ∈ d.body ↔ key ∈ bodyKeys ∧ d.body.lookup key = some v := by
  conv_lhs => rw [Assembly.body_of_assemble h, Entries.mem_present]
  simp only [List.mem_map, Prod.mk.injEq]
  constructor
  · rintro ⟨_, hk, rfl, hv⟩
    exact ⟨hk, hv⟩
  · exact fun hk => ⟨key, hk.1, rfl, hk.2⟩

theorem searchType_cases : d.searchType = some "count" ∨ d.searchType = none := by
  rw [Assembly.searchType_of_assemble h]
  unfold SearchDocument.typeFor
  split
  · exact .inl rfl
  · exact .inr rfl

theorem typeHandedOn?_eq_none : typeHandedOn? d = none := by
  rcases searchType_cases h with ht | ht <;> simp [typeHandedOn?, ht, legacySearchTypes]

/-- The arguments are the index, what stands in the body, and the projection. -/
theorem mem_arguments {k : String} {v : Value} :
    (k, v) ∈ arguments d ↔ (k = "index" ∧ v = .text d.index) ∨
      (∃ key, (key, v) ∈ d.body ∧ k = argumentName key) ∨
      k = "source" ∧ ∃ paths, d.source = some paths ∧ v = SearchDocument.texts paths := by
  have hsource : some v = d.source.map SearchDocument.texts ↔
      ∃ paths, d.source = some paths ∧ v = SearchDocument.texts paths := by
    simp only [eq_comm (a := some v), Option.map_eq_some_iff, eq_comm (a := v)]
  rw [arguments_eq_present, Entries.mem_present]
  simp only [hsource, mem_body_iff h, argumentSlots, typeHandedOn?_eq_none h, bodyKeys,
    List.mem_cons, List.not_mem_nil, or_false, Prod.mk.injEq, reduceCtorEq, and_false, or_and_right,
    exists_or, and_assoc, exists_eq_left]
  grind [argumentName]

theorem searchType_eq_typeFor :
    d.searchType = SearchDocument.typeFor ((arguments d).lookup "aggs")
      ((arguments d).lookup "size") := by
  rw [Assembly.searchType_of_assemble h]
  exact congrArg₂ _ (lookup_argumentName d (by decide)).symm
    (lookup_argumentName d (by decide)).symm

theorem ofArguments?_arguments : SearchDocument.ofArguments? (arguments d) = some d := by
  have hbody : Entries.present (bodyKeys.map fun key =>
      (key, (arguments d).lookup (argumentName key))) = d.body := by
    rw [List.map_congr_left fun key hk => by rw [lookup_argumentName d hk]]
    exact (Assembly.body_of_assemble h).symm
  have hindex : (arguments d).lookup "index" = some (.text d.index) := lookup_arguments d "index"
  have hsource : (arguments d).lookup "source" = d.source.map SearchDocument.texts :=
    lookup_arguments d "source"
  unfold SearchDocument.ofArguments?
  rw [hindex, hsource, hbody, ← searchType_eq_typeFor h]
  obtain ⟨index, body, source, searchType⟩ := d
  cases source with
  | none => rfl
  | some paths =>
    simp only [Option.map_some, SearchDocument.textsOf?_texts]
    rfl

/-- The client is called with the index, all that stands in the body under its names, and the
projection if there is one; never with a search type, as the two that remain can be told from the
rest. So the document can be had again from the arguments. -/
theorem arguments_hold_document :
    (arguments d).keys.Nodup ∧
      (∀ k v, (k, v) ∈ arguments d ↔ k = "index" ∧ v = .text d.index ∨
        (∃ key, (key, v) ∈ d.body ∧ k = if key = "from" then "from_" else key) ∨
        k = "source" ∧ ∃ paths, d.source = some paths ∧ v = SearchDocument.texts paths) ∧
      "search_type" ∉ (arguments d).keys ∧
      SearchDocument.ofArguments? (arguments d) = some d ∧
      (d.searchType = some "count" ↔
        "aggs" ∈ (arguments d).keys ∧ (arguments d).lookup "size" = some (.int 0)) ∧
      (d.searchType = some "count" ∨ d.searchType = none) := by
  refine ⟨?_, fun k v => mem_arguments h, ?_, ofArguments?_arguments h, ?_, searchType_cases h⟩
  · rw [arguments_eq_present]
    exact (Entries.keys_present_sublist _).nodup (nodup_keys_argumentSlots d)
  · rw [← Entries.lookup_eq_none, lookup_arguments]
    exact typeHandedOn?_eq_none h
  · have haggs : "aggs" ∈ (arguments d).keys ↔ (arguments d).lookup "aggs" ≠ none :=
      Entries.lookup_eq_none.not_left.symm
    rw [haggs, searchType_eq_typeFor h, SearchDocument.typeFor_eq_count]

end Assembled

/-- Buckets without hits, on a page of no size, in an order and with a projection. -/
def countedTowns : SearchRequest where
  index := "towns"
  filter := [[⟨"country", .text "equal", .text "IS"⟩]]
  search := none
  options := .default
  ownQuery := some [("match_all", .object [])]
  aggregates :=
    [⟨.text "count", ["country"], some "countries", .int 3,
      [⟨.text "max", ["people"], none, .null, []⟩]⟩]
  order := [⟨"people", .text "desc"⟩]
  limit := .int 0
  page := .bool true
  attributes := ["name", "country.code", "country.name"]
  explain := none

theorem arguments_hold_document_countedTowns :
    ∃ d, Assembly.assemble countedTowns = .ok d ∧ (arguments d).keys.Nodup ∧
      (∀ k v, (k, v) ∈ arguments d ↔ k = "index" ∧ v = .text d.index ∨
        (∃ key, (key, v) ∈ d.body ∧ k = if key = "from" then "from_" else key) ∨
        k = "source" ∧ ∃ paths, d.source = some paths ∧ v = SearchDocument.texts paths) ∧
      "search_type" ∉ (arguments d).keys ∧
      SearchDocument.ofArguments? (arguments d) = some d ∧
      (d.searchType = some "count" ↔
        "aggs" ∈ (arguments d).keys ∧ (arguments d).lookup "size" = some (.int 0)) ∧
      (d.searchType = some "count" ∨ d.searchType = none) := by
  obtain ⟨d, hd⟩ : ∃ d, Assembly.assemble countedTowns = .ok d := ⟨_, rfl⟩
  exact ⟨d, hd, arguments_hold_document hd⟩

end Transport
end SearchSource
