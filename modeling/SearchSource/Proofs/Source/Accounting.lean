import SearchSource.Proofs.Source.Execution

/-! What is counted over a whole run of a data source. Main statement: `run_accounts`. -/
namespace SearchSource
namespace Source

/-- What can happen to a data source with a scripted transport. -/
inductive Step
  | execute (r : SearchRequest)
  | respondWith (response : Value)
  | failWith (f : Failure)

/-- An attempt at a search: what was asked, what was sent and came back, and what the one who asked
got. -/
structure Attempt where
  request : SearchRequest
  sent : Option (SearchDocument × Except Failure Value)
  outcome : Except SearchFailure ResultSet

def attempt (r : SearchRequest) (s : Source) : Attempt where
  request := r
  sent := match Assembly.assemble r with
    | .ok d => some (d, (s.transport.search d).1)
    | .error _ => none
  outcome := (s.execute r).1.outcome

def enqueue (o : Outcome) (s : Source) : Source := { s with transport := s.transport.respond o }

/-- All attempts of a run, and the data source after it. -/
def run : List Step → Source → List Attempt × Source
  | [], s => ([], s)
  | .execute r :: steps, s =>
    let (attempts, s') := run steps (s.execute r).2
    (s.attempt r :: attempts, s')
  | .respondWith response :: steps, s => run steps (s.enqueue (.answer response))
  | .failWith f :: steps, s => run steps (s.enqueue (.failure f))

namespace Attempt

def document? (a : Attempt) : Option SearchDocument := a.sent.map (·.1)

def compiles (a : Attempt) : Bool := (Assembly.assemble a.request).isOk

/-- The search itself failed. -/
def raised (a : Attempt) : Bool :=
  match a.sent with
  | some (_, .error _) => true
  | _ => false

/-- The call that counts a failed search, if the failure may be caught. -/
def failureCall? (a : Attempt) : Option Measurement :=
  match a.sent with
  | some (d, .error f) =>
    if f.isCatchable then some (SearchMetrics.failureCall "index" d.index f.className) else none
  | _ => none

/-- The call that records the time of a response that was read and told one. -/
def timeCall? (a : Attempt) : Option Measurement :=
  match a.sent with
  | some (d, .ok response) =>
    (notedTime? a.request.aggregates response).map (SearchMetrics.timeCall "index" d.index)
  | _ => none

end Attempt

/-- The books of a data source agree with its attempts. -/
structure Accounts (attempts : List Attempt) (s : Source) : Prop where
  label : s.label? = some "index"
  documents : s.transport.documents? = some (attempts.filterMap (·.document?))
  queries : s.ledger.queries =
    (attempts.filterMap (·.document?)).map fun d => SearchMetrics.queryCall "index" d.index
  failures : s.ledger.failures = attempts.filterMap (·.failureCall?)
  times : s.ledger.times = attempts.filterMap (·.timeCall?)

theorem documents?_search (d : SearchDocument) (t : Transport) :
    (t.search d).2.documents? = t.documents?.map (· ++ [d]) := by
  cases t <;> rfl

theorem book_of_label {s : Source} {label : String} (h : s.label? = some label)
    (entry : String → Ledger) :
    s.book entry = entry label := by
  simp only [book, h, Option.map_some, Option.getD_some]

theorem Accounts.enqueue {attempts : List Attempt} {s : Source} (h : Accounts attempts s)
    (o : Outcome) :
    Accounts attempts (s.enqueue o) := by
  refine ⟨h.label, ?_, h.queries, h.failures, h.times⟩
  rw [← h.documents]
  unfold Source.enqueue
  cases s.transport <;> rfl

/-- One more attempt adds what it is counted as. -/
theorem Accounts.execute {attempts : List Attempt} {s : Source} (h : Accounts attempts s)
    (r : SearchRequest) :
    Accounts (attempts ++ [s.attempt r]) (s.execute r).2 := by
  cases hr : Assembly.assemble r with
  | error e =>
    -- nothing is sent, and nothing is counted
    have hsent : (s.attempt r).sent = none := by simp only [attempt, hr]
    rw [execute_of_error hr]
    refine ⟨h.label, ?_, ?_, ?_, ?_⟩
    · simp [Attempt.document?, hsent, h.documents]
    · simp [Attempt.document?, hsent, h.queries]
    · simp [Attempt.failureCall?, hsent, h.failures]
    · simp [Attempt.timeCall?, hsent, h.times]
  | ok d =>
    have hsent : (s.attempt r).sent = some (d, (s.transport.search d).1) := by
      simp only [attempt, hr]
    have hledger := ledger_execute hr s
    rw [book_of_label h.label, book_of_label h.label] at hledger
    refine ⟨(alike_execute hr s).label?.trans h.label, ?_, ?_, ?_, ?_⟩
    · rw [transport_execute hr, documents?_search, h.documents]
      simp [Attempt.document?, hsent]
    · rw [hledger]
      cases (s.transport.search d).1 <;>
        simp [Attempt.document?, hsent, h.queries, sentEntry, settled]
    · rw [hledger]
      cases hres : (s.transport.search d).1 with
      | error f => by_cases hf : f.isCatchable <;>
          simp [Attempt.failureCall?, hsent, hres, h.failures, sentEntry, settled, hf]
      | ok response => simp [Attempt.failureCall?, hsent, hres, h.failures, sentEntry, settled]
    · rw [hledger]
      cases hres : (s.transport.search d).1 with
      | error f => simp [Attempt.timeCall?, hsent, hres, h.times, sentEntry, settled]
      | ok response =>
        have hrequest : (s.attempt r).request = r := rfl
        cases ht : notedTime? r.aggregates response <;>
          simp [Attempt.timeCall?, hsent, hres, hrequest, ht, h.times, sentEntry, settled]

/-- Over a run, what was counted before grows by what the attempts of the run are counted as. -/
theorem Accounts.run {steps : List Step} {before : List Attempt} {s : Source}
    (h : Accounts before s) :
    Accounts (before ++ (s.run steps).1) (s.run steps).2 := by
  induction steps generalizing before s with
  | nil =>
    rw [show (s.run []).1 = [] from rfl, List.append_nil]
    exact h
  | cons step steps ih =>
    cases step with
    | execute r =>
      have hrest := ih (h.execute r)
      rw [List.append_assoc] at hrest
      exact hrest
    | respondWith response => exact ih (h.enqueue (.answer response))
    | failWith f => exact ih (h.enqueue (.failure f))

end Source
end SearchSource
