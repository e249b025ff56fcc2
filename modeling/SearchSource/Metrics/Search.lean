import SearchSource.Metrics.Registry

/-! The instruments of a data source. -/
namespace SearchSource

/-- The three instruments of a data source, taken from one generation of a registry. -/
structure SearchMetrics where
  generation : Nat
  /-- The label under which the index is told. -/
  indexLabel : String

namespace SearchMetrics

def queries : String := "data_source_queries"

def failures : String := "data_source_query_failures"

def tookTime : String := "search_took_ms"

def defaultLabel : String := "index"

/-- Take the instruments, which makes those that are not there. -/
def bind (label : String) (r : Registry) : SearchMetrics × Registry :=
  (⟨r.generation, label⟩,
    ((r.ensureCounter queries).ensureCounter failures).ensureHistogram tookTime)

/-- Change the registry if the instruments are still its own. -/
def onOwn (m : SearchMetrics) (change : Registry → Registry) (r : Registry) : Registry :=
  if m.generation = r.generation then change r else r

def one (labels : Entries Value) : Measurement := ⟨.int 1, .object labels⟩

def querySent (m : SearchMetrics) (index : String) : Registry → Registry :=
  m.onOwn fun r => (r.add queries (one [(m.indexLabel, .text index)])).1

def queryFailed (m : SearchMetrics) (index className : String) : Registry → Registry :=
  m.onOwn fun r => (r.add failures
    (one (Entries.put "error" (.text className) [(m.indexLabel, .text index)]))).1

/-- The engine reported a time, unless it is `null`. -/
def took (m : SearchMetrics) (index : String) (time : Value) (r : Registry) :
    Except Fault Registry :=
  match time with
  | .null => .ok r
  | time => do
    let x ← time.toFloat
    return m.onOwn (·.record tookTime ⟨.float x, .object [(m.indexLabel, .text index)]⟩) r

end SearchMetrics
end SearchSource
