import SearchSource.Proofs.Source.Accounting
import SearchSource.Proofs.Source.Failing

/-! A data source whose registry is reset while it runs. It took its instruments when it was made,
so that after a reset it records where nobody looks. Main statement: `counts_since_reset_iff`. -/
namespace SearchSource
namespace Registry

/-- The calls of the counter that a registry hands out under a name. -/
def counterCalls (name : String) (r : Registry) : List Measurement :=
  (r.ensureCounter name).counted name

/-- The calls of the histogram that a registry hands out under a name. -/
def histogramCalls (name : String) (r : Registry) : List Measurement :=
  (r.ensureHistogram name).recorded name

theorem counterCalls_eq (name : String) (r : Registry) : r.counterCalls name = r.counted name := by
  unfold counterCalls ensureCounter counted
  cases hlookup : r.counters.lookup name with
  | none => simp [Entries.has, hlookup, Entries.lookup_put]
  | some c => simp [Entries.has, hlookup]

theorem histogramCalls_eq (name : String) (r : Registry) :
    r.histogramCalls name = r.recorded name := by
  unfold histogramCalls ensureHistogram recorded
  cases hlookup : r.histograms.lookup name with
  | none => simp [Entries.has, hlookup, Entries.lookup_put]
  | some h => simp [Entries.has, hlookup]

end Registry

namespace Source

/-- What can happen to a data source and to the registry that it was made over. -/
inductive MeteredStep
  | execute (r : SearchRequest)
  | reset

def resetRegistry (s : Source) : Source := { s with registry := s.registry.reset }

/-- The attempts of a run since the last reset, where `attempts` came before the run, and the data
source after it. -/
def runMetered : List MeteredStep → List Attempt → Source → List Attempt × Source
  | [], attempts, s => (attempts, s)
  | .execute r :: steps, attempts, s => runMetered steps (attempts ++ [s.attempt r]) (s.execute r).2
  | .reset :: steps, _, s => runMetered steps [] s.resetRegistry

/-- The call that counts a query, if one was sent. -/
def Attempt.queryCall? (a : Attempt) : Option Measurement :=
  a.document?.map fun d => SearchMetrics.queryCall "index" d.index

/-- The calls of the instruments that attempts are worth. -/
def callsOf (attempts : List Attempt) : Ledger :=
  ⟨attempts.filterMap (·.queryCall?), attempts.filterMap (·.failureCall?),
    attempts.filterMap (·.timeCall?)⟩

theorem callsOf_append (before after : List Attempt) :
    callsOf (before ++ after) = callsOf before ++ callsOf after := by
  ext1 <;> exact List.filterMap_append

theorem alike_attempt (r : SearchRequest) (s : Source) : s.Alike (s.execute r).2 := by
  cases h : Assembly.assemble r with
  | error e =>
    rw [execute_of_error h]
    exact .refl s
  | ok d => exact alike_execute h s

theorem ledger_attempt {s : Source} (hlabel : s.label? = some "index") (r : SearchRequest) :
    (s.execute r).2.ledger = s.ledger ++ callsOf [s.attempt r] := by
  cases h : Assembly.assemble r with
  | error e =>
    have hsent : (s.attempt r).sent = none := by simp only [attempt, h]
    have hnothing : callsOf [s.attempt r] = .empty := by
      simp [callsOf, Attempt.queryCall?, Attempt.document?, Attempt.failureCall?, Attempt.timeCall?,
        hsent, Ledger.empty]
    rw [execute_of_error h, hnothing, Ledger.append_empty]
  | ok d =>
    have hsent : (s.attempt r).sent = some (d, (s.transport.search d).1) := by
      simp only [attempt, h]
    have hrequest : (s.attempt r).request = r := rfl
    rw [ledger_execute h, book_of_label hlabel, book_of_label hlabel]
    congr 1
    cases hres : (s.transport.search d).1 with
    | error f =>
      by_cases hf : f.isCatchable <;> ext1 <;>
        simp [callsOf, Attempt.queryCall?, Attempt.document?, Attempt.failureCall?,
          Attempt.timeCall?, hsent, hres, sentEntry, settled, hf]
    | ok response =>
      cases ht : notedTime? r.aggregates response <;> ext1 <;>
        simp [callsOf, Attempt.queryCall?, Attempt.document?, Attempt.failureCall?,
          Attempt.timeCall?, hsent, hres, hrequest, ht, sentEntry, settled]

theorem ledger_of_unlabelled {s : Source} (hlabel : s.label? = none) (r : SearchRequest) :
    (s.execute r).2.ledger = s.ledger := by
  have hbook (entry : String → Ledger) : s.book entry = .empty := by
    rw [book, hlabel]
    rfl
  cases h : Assembly.assemble r with
  | error e => rw [execute_of_error h]
  | ok d => rw [ledger_execute h, hbook, hbook, Ledger.append_empty, Ledger.append_empty]

/-- The instruments are those of the registry, which holds the calls of all attempts. -/
structure Current (attempts : List Attempt) (s : Source) : Prop where
  label : s.label? = some "index"
  ledger : s.ledger = callsOf attempts

/-- The instruments are older than the registry, which holds no calls of a search. -/
structure Stale (s : Source) : Prop where
  older : ∃ m, s.metrics = some m ∧ m.generation < s.registry.generation
  ledger : s.ledger = .empty

theorem Current.execute {attempts : List Attempt} {s : Source} (h : Current attempts s)
    (r : SearchRequest) :
    Current (attempts ++ [s.attempt r]) (s.execute r).2 := by
  refine ⟨(alike_attempt r s).label?.trans h.label, ?_⟩
  rw [ledger_attempt h.label, h.ledger, callsOf_append]

theorem Current.reset {attempts : List Attempt} {s : Source} (h : Current attempts s) :
    Stale s.resetRegistry := by
  obtain ⟨m, hm, hlabel⟩ := Option.bind_eq_some_iff.mp h.label
  have hown : m.generation = s.registry.generation := by
    by_contra hne
    rw [SearchMetrics.label?, if_neg hne] at hlabel
    cases hlabel
  exact ⟨⟨m, hm, hown ▸ Nat.lt_succ_self _⟩, rfl⟩

namespace Stale

variable {s : Source}

theorem label?_eq_none (h : Stale s) : s.label? = none := by
  obtain ⟨m, hm, hlt⟩ := h.older
  rw [Source.label?, hm, Option.bind_some, SearchMetrics.label?, if_neg (Nat.ne_of_lt hlt)]

theorem execute (h : Stale s) (r : SearchRequest) : Stale (s.execute r).2 := by
  have halike := alike_attempt r s
  refine ⟨?_, (ledger_of_unlabelled h.label?_eq_none r).trans h.ledger⟩
  rw [halike.metrics, halike.generation]
  exact h.older

theorem reset (h : Stale s) : Stale s.resetRegistry := by
  obtain ⟨m, hm, hlt⟩ := h.older
  exact ⟨⟨m, hm, Nat.lt_succ_of_lt hlt⟩, rfl⟩

/-- The instruments of a data source do not become those of its registry again. -/
theorem run {steps : List MeteredStep} (h : Stale s) (attempts : List Attempt) :
    Stale (runMetered steps attempts s).2 := by
  induction steps generalizing attempts s with
  | nil => exact h
  | cons step steps ih =>
    cases step with
    | execute r => exact ih (h.execute r) _
    | reset => exact ih h.reset _

end Stale

/-- The first reset decides whether the registry still holds calls at the end. -/
theorem Current.run (steps : List MeteredStep) {attempts : List Attempt} {s : Source}
    (h : Current attempts s) :
    (.reset ∉ steps → Current (runMetered steps attempts s).1 (runMetered steps attempts s).2) ∧
      (.reset ∈ steps → Stale (runMetered steps attempts s).2) := by
  induction steps generalizing attempts s with
  | nil => exact ⟨fun _ => h, nofun⟩
  | cons step steps ih =>
    cases step with
    | execute r =>
      obtain ⟨hwithout, hwith⟩ := ih (h.execute r)
      simp only [List.mem_cons, reduceCtorEq, false_or]
      exact ⟨hwithout, hwith⟩
    | reset => exact ⟨fun hno => absurd List.mem_cons_self hno, fun _ => h.reset.run []⟩

/-- What the registry hands out after a run has the calls since the last reset exactly if there was
no reset, or if no such call was to be made since. After a reset it has none of them. -/
theorem counts_since_reset_iff (t : Transport) (steps : List MeteredStep) :
    let attempts := (runMetered steps [] (ofTransport t true)).1
    let registry := (runMetered steps [] (ofTransport t true)).2.registry
    (registry.counterCalls SearchMetrics.queries = attempts.filterMap (·.queryCall?) ↔
        .reset ∉ steps ∨ attempts.filterMap (·.queryCall?) = []) ∧
      (registry.counterCalls SearchMetrics.failures = attempts.filterMap (·.failureCall?) ↔
        .reset ∉ steps ∨ attempts.filterMap (·.failureCall?) = []) ∧
      (registry.histogramCalls SearchMetrics.tookTime = attempts.filterMap (·.timeCall?) ↔
        .reset ∉ steps ∨ attempts.filterMap (·.timeCall?) = []) ∧
      (.reset ∈ steps → registry.counterCalls SearchMetrics.queries = [] ∧
        registry.counterCalls SearchMetrics.failures = [] ∧
            registry.histogramCalls SearchMetrics.tookTime = []) := by
  intro attempts registry
  have hstart : Current [] (ofTransport t true) := ⟨rfl, rfl⟩
  obtain ⟨hcurrent, hstale⟩ := hstart.run steps
  have hledger : registry.ledger = ⟨registry.counterCalls SearchMetrics.queries,
      registry.counterCalls SearchMetrics.failures,
      registry.histogramCalls SearchMetrics.tookTime⟩ := by
    rw [Registry.counterCalls_eq, Registry.counterCalls_eq, Registry.histogramCalls_eq]
    rfl
  have hkept (h : .reset ∉ steps) := hledger.symm.trans (hcurrent h).ledger
  have hlost (h : .reset ∈ steps) := hledger.symm.trans (hstale h).ledger
  have hiff {held calls : List Measurement} (hkept : .reset ∉ steps → held = calls)
      (hlost : .reset ∈ steps → held = []) : held = calls ↔ .reset ∉ steps ∨ calls = [] := by
    by_cases h : .reset ∈ steps
    · rw [hlost h, eq_comm]
      simp [h]
    · simp [hkept h, h]
  refine ⟨hiff ?_ ?_, hiff ?_ ?_, hiff ?_ ?_, ?_⟩
  · exact fun h => congrArg Ledger.queries (hkept h)
  · exact fun h => congrArg Ledger.queries (hlost h)
  · exact fun h => congrArg Ledger.failures (hkept h)
  · exact fun h => congrArg Ledger.failures (hlost h)
  · exact fun h => congrArg Ledger.times (hkept h)
  · exact fun h => congrArg Ledger.times (hlost h)
  · exact fun h => ⟨congrArg Ledger.queries (hlost h), congrArg Ledger.failures (hlost h),
      congrArg Ledger.times (hlost h)⟩

/-- A search before a reset and one after it. -/
def resetBetween : List MeteredStep := [.execute plainSearch, .reset, .execute plainSearch]

/-- A data source whose searches all come to an answer without hits. -/
def unprepared : Source := ofTransport (.scripted ⟨[], Script.noHits⟩ [] false) true

/-- The search behind the reset is not counted in what the registry hands out. -/
theorem resetBetween_loses_query :
    (runMetered resetBetween [] unprepared).1.filterMap (·.queryCall?) =
      [SearchMetrics.queryCall "index" "towns"] ∧
      (runMetered resetBetween [] unprepared).2.registry.counterCalls SearchMetrics.queries = [] :=
  ⟨rfl, rfl⟩

theorem counts_since_reset_iff_resetBetween :
    (runMetered resetBetween [] unprepared).2.registry.counterCalls SearchMetrics.queries ≠
        (runMetered resetBetween [] unprepared).1.filterMap (·.queryCall?) ∧
      (runMetered [.execute plainSearch] [] unprepared).2.registry.counterCalls
          SearchMetrics.queries =
        (runMetered [.execute plainSearch] [] unprepared).1.filterMap (·.queryCall?) := by
  have hreset : MeteredStep.reset ∈ resetBetween := by simp [resetBetween]
  have hnone : MeteredStep.reset ∉ [MeteredStep.execute plainSearch] := by simp
  refine ⟨fun heq => ?_, (counts_since_reset_iff _ _).1.mpr (.inl hnone)⟩
  rcases (counts_since_reset_iff _ _).1.mp heq with hno | hnothing
  · exact hno hreset
  · cases hnothing

end Source
end SearchSource
