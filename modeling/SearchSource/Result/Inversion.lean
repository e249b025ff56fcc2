import SearchSource.Query.Aggregation

/-! Answers to aggregations read back under the names of the aggregates. -/
namespace SearchSource
namespace Inversion

/-- What stands where nothing was answered. -/
def orEmpty (v : Value) : Value := if v.holds then v else .object []

def bucketsOf (raw : Value) : Except Fault (List Value) := do
  let buckets ← raw.get "buckets"
  if buckets.holds then buckets.elements else .ok []

/-- The entries of a bucket, its count renamed and put behind what the engine sent. -/
def bucketEntries (bucket : Value) : Except Fault (Entries Value) :=
  match bucket with
  | .object es =>
    .ok (Entries.put "count" ((es.lookup "doc_count").getD .null) (Entries.drop "doc_count" es))
  -- the entry itself has no place among entries, and JSON has none like it
  | .keyed _ _ => .ok [("count", .null)]
  | _ => .error .noKeys

mutual

/-- The answer to one aggregate: buckets, the keys of buckets, or a value. -/
def invertOne : AggregateSpec → Value → Except Failure Value
  | _, .null => .ok .null
  | ⟨function, _, _, _, children⟩, raw =>
    match Aggregation.functionOf? function with
    | none => .error (.unfit .badContent)
    | some .count => do
      let buckets ← (bucketsOf raw : Except Fault (List Value))
      let inverted ← buckets.mapM fun bucket => do
        let entries ← (bucketEntries bucket : Except Fault (Entries Value))
        if children.isEmpty then return Value.object entries
        else
          let given ← (Aggregation.names Aggregation.bucketKeys children :
            Except CompileError (List String))
          let inner ← invertEach children given bucket
          return Value.object (Entries.merge entries inner)
      return .list inverted
    | some .values => do
      let buckets ← (bucketsOf raw : Except Fault (List Value))
      let keys ← (buckets.mapM (·.get "key") : Except Fault (List Value))
      return .list keys
    | some .min => (raw.get "value" : Except Fault Value)
    | some .max => (raw.get "value" : Except Fault Value)

def invertEach : List AggregateSpec → List String → Value → Except Failure (List (String × Value))
  | spec :: specs, name :: names, raw => do
    let here ← ((orEmpty raw).get name : Except Fault Value)
    let answer ← invertOne spec here
    let others ← invertEach specs names raw
    return (name, answer) :: others
  | _, _, _ => .ok []

end

def invert (reserved : List String) (specs : List AggregateSpec) (raw : Value) :
    Except Failure (Entries Value) := do
  let given ← (Aggregation.names reserved specs : Except CompileError (List String))
  invertEach specs given raw

end Inversion
end SearchSource
