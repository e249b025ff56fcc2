import SearchSource.Proofs.Query.Assembly
import SearchSource.Proofs.Query.Meaning

/-! What restricts a search: its filter and its text part, neither of which is lost in the query
that is sent. Main statement: `query_restricts_as_asked`. -/
namespace SearchSource
namespace Assembly

/-- A search for a text whose last word may be unfinished, in the boosted fields or else in all. -/
def phraseOf (search : String) (boost : Option (List String)) : Value :=
  let fields := match boost with
    | none | some [] => ["_all"]
    | some fields => fields
  .object [("multi_match", .object
    [("type", .text "phrase_prefix"), ("query", .text search),
      ("fields", SearchDocument.texts fields)])]

/-- A query whose score a field value changes, if one is named. -/
def scored (factor : Option (Entries Value)) (query : Value) : Value :=
  match factor with
  | none | some [] => query
  | some factor => .object
    [("function_score", .object [("query", query), ("field_value_factor", .object factor)])]

/-- The text part that a request asks for. An own query that is given takes the place of the text
search, also when it is empty and says nothing itself. -/
inductive AsksText (r : SearchRequest) : Option Value → Prop
  | ownQuery {q} (given : r.ownQuery = some q) (speaks : q ≠ []) : AsksText r (some (.object q))
  | emptyOwnQuery (given : r.ownQuery = some []) : AsksText r none
  | search {s} (noOwn : r.ownQuery = none) (given : r.search = some s) (speaks : s ≠ "") :
      AsksText r (some (scored r.options.fieldValueFactor (phraseOf s r.options.boost)))
  | nothing (noOwn : r.ownQuery = none) (silent : r.search = none ∨ r.search = some "") :
    AsksText r none

/-- Entries as a query; without any there is none. -/
def queryOf? (es : Entries Value) : Option Value := if es.isEmpty then none else some (.object es)

theorem queryOf?_textQuery (s : String) (o : QueryOptions) :
    queryOf? (textQuery s o) = some (scored o.fieldValueFactor (phraseOf s o.boost)) := by
  obtain ⟨boost, factor, sortMap⟩ := o
  unfold queryOf? textQuery phraseOf scored
  rcases boost with - | - | - <;> rcases factor with - | - | - <;> rfl

/-- Every request asks for exactly one text part. -/
theorem asksText_iff {r : SearchRequest} {text : Option Value} :
    AsksText r text ↔ text = queryOf? (textPart r) := by
  constructor
  · rintro (⟨given, speaks⟩ | given | ⟨noOwn, given, speaks⟩ | ⟨noOwn, silent⟩)
    · simp [textPart, given, queryOf?, speaks]
    · simp [textPart, given, queryOf?]
    · simp only [textPart, noOwn, given, if_neg speaks, queryOf?_textQuery]
    · rcases silent with h | h <;> simp [textPart, noOwn, h, queryOf?]
  · rintro rfl
    cases hq : r.ownQuery with
    | some q =>
      cases q with
      | nil =>
        have h : textPart r = [] := by simp [textPart, hq]
        rw [h]
        exact .emptyOwnQuery hq
      | cons e es =>
        have h : textPart r = e :: es := by simp [textPart, hq]
        rw [h]
        exact .ownQuery hq (List.cons_ne_nil e es)
    | none =>
      cases hs : r.search with
      | none =>
        have h : textPart r = [] := by simp [textPart, hq, hs]
        rw [h]
        exact .nothing hq (.inl hs)
      | some s =>
        by_cases he : s = ""
        · have h : textPart r = [] := by simp [textPart, hq, hs, he]
          rw [h]
          exact .nothing hq (.inr (he ▸ hs))
        · have h : textPart r = textQuery s r.options := by simp [textPart, hq, hs, he]
          rw [h, queryOf?_textQuery]
          exact .search hq hs he

theorem joinQuery_eq_none {filter : Option Query} {text : Entries Value} :
    joinQuery filter text = none ↔ filter = none ∧ queryOf? text = none := by
  unfold joinQuery queryOf?
  cases filter <;> by_cases h : text.isEmpty <;> simp [h]

theorem matches_both (leaf : Value → Prop) (v w : Value) :
    Query.Matches leaf (.object [("bool", .object [("must", .list [v, w])])]) ↔
      Query.Matches leaf v ∧ Query.Matches leaf w := by
  simp only [Query.Matches, Query.MatchesAll, and_true]

/-- Two parts that are joined both restrict, and one alone is not changed. -/
theorem finds_joinQuery (leaf : Value → Prop) (filter : Option Query) (text : Entries Value) :
    Query.Finds leaf (joinQuery filter text) ↔
      Query.Finds leaf (filter.map Query.toValue) ∧ Query.Finds leaf (queryOf? text) := by
  cases filter with
  | none =>
    cases text with
    | nil => exact (and_iff_left trivial).symm
    | cons e es => exact (and_iff_right trivial).symm
  | some q =>
    cases text with
    | nil => exact (and_iff_left trivial).symm
    | cons e es => exact matches_both leaf q.toValue (.object (e :: es))

/-- The query of a document restricts the search as its request asks, whatever the leaves mean: what
it finds is what the filter finds and the text part finds. It is missing only if both are. -/
theorem query_restricts_as_asked {r : SearchRequest} {d : SearchDocument} (h : assemble r = .ok d) :
    ∃ filter text, Filter.compile r.filter = .ok filter ∧ AsksText r text ∧
      (∀ {Doc : Type} (leaf : Doc → Value → Prop) (x : Doc),
        Query.Finds (leaf x) (d.body.lookup "query") ↔
          Query.Finds (leaf x) (filter.map Query.toValue) ∧ Query.Finds (leaf x) text) ∧
      (d.body.lookup "query" = none ↔ filter = none ∧ text = none) := by
  obtain ⟨start, filter, forest, order, -, hfilter, -, -, rfl⟩ := assemble_eq_ok.mp h
  refine ⟨filter, queryOf? (textPart r), hfilter, asksText_iff.mpr rfl, ?_, ?_⟩
  · intro Doc leaf x
    rw [lookup_query]
    exact finds_joinQuery (leaf x) filter (textPart r)
  · rw [lookup_query]
    exact joinQuery_eq_none

/-- A filter and a search for a text, whose score depends on a field, on the second page. -/
def harbours : SearchRequest where
  index := "towns"
  filter :=
    [[⟨"_id", .text "equal", .list [.int 1, .int 2]⟩, ⟨"depth", .text "greater", .int 5⟩], []]
  search := some "old harb"
  options := ⟨none, some [("field", .text "traffic")], none⟩
  ownQuery := none
  aggregates := []
  order := []
  limit := .int 10
  page := .int 2
  attributes := []
  explain := none

theorem query_restricts_as_asked_harbours :
    ∃ d, assemble harbours = .ok d ∧
      ∃ filter text, Filter.compile harbours.filter = .ok filter ∧ AsksText harbours text ∧
        (∀ {Doc : Type} (leaf : Doc → Value → Prop) (x : Doc),
          Query.Finds (leaf x) (d.body.lookup "query") ↔
            Query.Finds (leaf x) (filter.map Query.toValue) ∧ Query.Finds (leaf x) text) ∧
        (d.body.lookup "query" = none ↔ filter = none ∧ text = none) :=
  ⟨_, rfl, query_restricts_as_asked rfl⟩

def harboursByOwnQuery : SearchRequest :=
  { harbours with filter := [], options := .default, ownQuery := some [] }

/-- An empty own query is not the same as none: the text that is also searched for is left out, and
a document that does not match it is found. -/
theorem harboursByOwnQuery_drops_search :
    harboursByOwnQuery.ownQuery = some [] ∧ harboursByOwnQuery.search = some "old harb" ∧
      Filter.compile harboursByOwnQuery.filter = .ok none ∧
      ∃ d, assemble harboursByOwnQuery = .ok d ∧ d.body.lookup "query" = none ∧
        ¬ ∀ {Doc : Type} (leaf : Doc → Value → Prop) (x : Doc),
          Query.Finds (leaf x) (d.body.lookup "query") ↔
            Query.Finds (leaf x) (some (phraseOf "old harb" none)) := by
  refine ⟨rfl, rfl, rfl, _, rfl, rfl, ?_⟩
  intro h
  have hmatches := (h (fun (_ : Unit) _ => False) ()).mp trivial
  simp [phraseOf, Query.Finds, Query.Matches] at hmatches

end Assembly
end SearchSource
