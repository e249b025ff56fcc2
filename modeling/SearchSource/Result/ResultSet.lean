import SearchSource.Result.Row
import SearchSource.Result.Inversion

/-! What a search gives back to its caller. -/
namespace SearchSource

structure ResultSet where
  rows : List (Entries Value)
  /-- The number of all hits, where the engine tells it. -/
  totalCount : Value
  aggregations : Entries Value

namespace ResultSet

def size (r : ResultSet) : Nat := r.rows.length

/-- The envelope of a result; aggregations are in it only if there are any. -/
def entries (r : ResultSet) : Entries Value :=
  [("data", .list (r.rows.map .object)), ("totalCount", r.totalCount)] ++
    (if r.aggregations.isEmpty then [] else [("aggregations", .object r.aggregations)])

/-- The total is an integer, or a mapping with a value; anything else tells nothing. -/
def totalOf (hits : Value) : Except Fault Value := do
  match ← hits.get "total" with
  | .object es => .ok ((es.lookup "value").getD .null)
  | .int n => .ok (.int n)
  | _ => .ok .null

def ofResponse (response : Value) (specs : List AggregateSpec) : Except Failure ResultSet := do
  let hits ← (response.get "hits" : Except Fault Value)
  let hits := Inversion.orEmpty hits
  let aggregations ← if specs.isEmpty then pure []
    else do
      let raw ← (response.get "aggregations" : Except Fault Value)
      Inversion.invert [] specs raw
  let listed ← (hits.get "hits" : Except Fault Value)
  let found ← if listed.holds then (listed.elements : Except Fault (List Value)) else pure []
  let rows ← (found.mapM Row.ofHit : Except Fault (List (Entries Value)))
  let total ← (totalOf hits : Except Fault Value)
  return ⟨rows, total, aggregations⟩

end ResultSet
end SearchSource
