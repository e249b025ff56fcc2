import SearchSource.Query.Request
import SearchSource.Query.CompileError

/-! Aggregates compiled to the engine's aggregations. -/
namespace SearchSource

/-- Buckets of a field, with aggregations inside each, or one metric of a field. -/
inductive Aggregation
  | buckets (field : String) (size : Option Int) (inner : List (String × Aggregation))
  | metric (function : AggregateFunction) (field : String)

namespace Aggregation

mutual

def toValue : Aggregation → Value
  | buckets field size inner =>
    let entries := ("field", Value.text field) :: (size.map fun n => ("size", Value.int n)).toList
    .object [("terms", .object (if inner.isEmpty then entries
      else entries ++ [("aggs", .object (toEntries inner))]))]
  | metric f field => .object [(f.word, .object [("field", .text field)])]

def toEntries : List (String × Aggregation) → List (String × Value)
  | [] => []
  | (name, a) :: rest => (name, toValue a) :: toEntries rest

end

def bucketKeys : List String := ["key", "key_as_string", "doc_count", "count"]

def nameAt (position : Nat) (spec : AggregateSpec) : String :=
  match spec.name with
  | some a => if a = "" then toString position else a
  | none => toString position

/-- Names of the siblings from `position` on; none may be among `taken`, which grows with every
name. -/
def namesFrom (position : Nat) (taken : List String) :
    List AggregateSpec → Except CompileError (List String)
  | [] => .ok []
  | spec :: specs =>
    let name := nameAt position spec
    if name ∈ taken then .error (.nameInUse spec.function name)
    else do
      let others ← namesFrom (position + 1) (name :: taken) specs
      return name :: others

/-- The names of siblings, which may not use what is reserved. -/
def names (reserved : List String) (specs : List AggregateSpec) :
    Except CompileError (List String) :=
  namesFrom 0 reserved specs

def functionOf? (v : Value) : Option AggregateFunction := v.asText?.bind AggregateFunction.ofWord?

/-- The number of buckets that a limit asks for; what does not hold asks for none. -/
def bucketSize (f : AggregateFunction) (limit : Value) : Except CompileError (Option Int) :=
  if limit.holds then
    match limit.toInt with
    | .ok n => .ok (some n)
    | .error .badContent => .error (.limitNotANumber f limit)
    | .error fault => .error (.unfit fault)
  else .ok none

mutual

def compileOne : AggregateSpec → Except CompileError Aggregation
  | ⟨function, fields, _, limit, children⟩ =>
    match functionOf? function with
    | none => .error (.unsupportedFunction (CompileError.written function))
    | some f =>
      match fields with
      | [field] =>
        if f.isBucketing then do
          let size ← bucketSize f limit
          let given ← names bucketKeys children
          let inner ← compileEach children
          return .buckets field size (given.zip inner)
        else if children.isEmpty then .ok (.metric f field)
        else .error (.metricWithChildren f)
      | _ => .error (.notOneField f)

def compileEach : List AggregateSpec → Except CompileError (List Aggregation)
  | [] => .ok []
  | spec :: specs => do
    let here ← compileOne spec
    let others ← compileEach specs
    return here :: others

end

def compile (reserved : List String) (specs : List AggregateSpec) :
    Except CompileError (List (String × Aggregation)) := do
  let given ← names reserved specs
  let each ← compileEach specs
  return given.zip each

end Aggregation
end SearchSource
