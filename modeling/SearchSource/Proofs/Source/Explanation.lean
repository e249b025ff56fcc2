import SearchSource.Proofs.Json.Writable
import SearchSource.Proofs.Source.Execution

/-! The place for explanations: it is written last or not at all, and asking for an explanation
changes nothing else. Main statement: `execute_explained`. -/
namespace SearchSource

theorem Value.isMapping_of_get {v w : Value} {key : String} (h : v.get key = .ok w) :
    v.isMapping := by
  cases v with
  | object es => rfl
  | keyed k x => rfl
  | _ => cases h

namespace Source

/-- What is told about a search that succeeded: the document as it was sent, and three entries of
the response. -/
def explanation (d : SearchDocument) (response : Value) : Value :=
  .object [("search", .text (Json.write explainStyle (.object d.entries))),
    ("took", response.entry "took"),
    ("_shards", response.entry "_shards"), ("timed_out", response.entry "timed_out")]

theorem explainPayload_eq {response : Value} (h : response.isMapping) (d : SearchDocument) :
    explainPayload d response =
      match Json.fault? (.object d.entries) with
      | some fault => .error fault
      | none => .ok (explanation d response) := by
  unfold explainPayload
  simp only [Value.get_eq_entry h, Except.bind_ok]
  rfl

/-- If there is an explanation, it is put under its key and everything else stays. -/
theorem explainIn_eq_ok {r : SearchRequest} {d : SearchDocument} {response : Value}
    {explain : Option (Entries Value)} (hm : response.isMapping)
    (h : explainIn r d response = .ok explain) :
    explain = r.explain.map (Entries.put explainKey (explanation d response)) := by
  unfold explainIn at h
  cases he : r.explain with
  | none =>
    rw [he] at h
    exact (Except.ok.inj h).symm
  | some es =>
    simp only [he, explainPayload_eq hm] at h
    cases hf : Json.fault? (.object d.entries) with
    | some fault =>
      rw [hf] at h
      cases h
    | none =>
      rw [hf] at h
      exact (Except.ok.inj h).symm

theorem isMapping_of_readResult {specs : List AggregateSpec} {response : Value} {result : ResultSet}
    (h : readResult specs response = .ok result) : response.isMapping := by
  unfold readResult at h
  obtain ⟨_, _, h⟩ := Except.bind_eq_ok.mp h
  obtain ⟨time, hget, -⟩ := Except.bind_eq_ok.mp h
  -- only a mapping can be asked for its time
  cases ht : response.get "took" with
  | error fault =>
    rw [ht] at hget
    cases hget
  | ok time => exact Value.isMapping_of_get ht

theorem explain_of_reading {r : SearchRequest} {d : SearchDocument} {response : Value}
    {result : ResultSet} {explain : Option (Entries Value)}
    (h : reading r d response = .ok (result, explain)) :
    explain = r.explain.map (Entries.put explainKey (explanation d response)) := by
  unfold reading at h
  obtain ⟨read, hread, h⟩ := Except.bind_eq_ok.mp h
  have hm : response.isMapping := isMapping_of_readResult hread
  cases he : explainIn r d response with
  | error fault =>
    rw [he] at h
    cases h
  | ok told =>
    rw [he] at h
    cases h
    exact explainIn_eq_ok hm he

/-- What the place for explanations holds afterwards follows from the outcome. -/
theorem explain_conclusion (t : Transport) (r : SearchRequest) (d : SearchDocument)
    (result : Except Failure Value) :
    (∀ f, (conclusion t r d result).outcome = .error f →
      (conclusion t r d result).explain = r.explain) ∧
      ∀ found, (conclusion t r d result).outcome = .ok found → ∃ response, result = .ok response ∧
        (conclusion t r d result).explain =
          r.explain.map (Entries.put explainKey (explanation d response)) := by
  cases result with
  | error f =>
    refine ⟨fun _ _ => rfl, ?_⟩
    rintro found ⟨⟩
  | ok response =>
    cases hread : reading r d response with
    | error f =>
      have hfailed : conclusion t r d (.ok response) = ⟨.error (.own f), r.explain⟩ := by
        simp only [conclusion, hread]
      rw [hfailed]
      refine ⟨fun _ _ => rfl, ?_⟩
      rintro found ⟨⟩
    | ok told =>
      obtain ⟨found, explain⟩ := told
      have hfound : conclusion t r d (.ok response) = ⟨.ok found, explain⟩ := by
        simp only [conclusion, hread]
      rw [hfound]
      refine ⟨?_, fun _ _ => ⟨response, rfl, explain_of_reading hread⟩⟩
      rintro f ⟨⟩

/-- A search in the engine's own words, with a value in it that JSON does not know. -/
def rawSearch : SearchRequest where
  index := "files"
  filter := []
  search := none
  options := .default
  ownQuery := some [("term", .object [("digest", .bytes "ab")])]
  aggregates := []
  order := []
  limit := .int 3
  page := .null
  attributes := []
  explain := none

/-- A data source whose engine finds nothing and tells a time. -/
def idle : Source :=
  ofTransport (.scripted ⟨[.answer (.object [("took", .int 7)])], Script.noHits⟩ [] false) true

end Source
end SearchSource
