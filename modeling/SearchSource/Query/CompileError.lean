import SearchSource.Failure

/-! The reasons for which a request has no query. -/
namespace SearchSource

inductive CompileError
  | unsupportedOperator (written : String)
  | unsupportedFunction (written : String)
  | notOneField (function : AggregateFunction)
  | limitNotANumber (function : AggregateFunction) (limit : Value)
  | metricWithChildren (function : AggregateFunction)
  | nameInUse (function : Value) (name : String)
  | unfit (fault : Fault)

namespace CompileError

/-- A word of a request as it is quoted in a report. -/
def written (v : Value) : String := (v.asText?).getD v.display

def invalid (f : AggregateFunction) (message : Option String) : Failure :=
  .build (.invalidAggregation (.text f.word)) message none [] none

def toFailure : CompileError → Failure
  | unsupportedOperator w => .ofKind (.unsupportedOperator (.text w))
  | unsupportedFunction w => .ofKind (.unsupportedAggregation (.text w))
  | notOneField f => invalid f none
  | limitNotANumber f limit =>
    invalid f
      (some ("Invalid " ++ f.word ++ " aggregation: limit " ++ limit.literal ++ " is not a number"))
  | metricWithChildren f =>
    invalid f (some ("Invalid " ++ f.word ++
      " aggregation: metric aggregations cannot have sub-aggregations"))
  | nameInUse f a => .ofKind (.nameConflict f (.text a))
  | unfit fault => .unfit fault

end CompileError

instance : MonadLift (Except CompileError) (Except Failure) where
  monadLift
    | .ok a => .ok a
    | .error e => .error e.toFailure

instance : MonadLift (Except Fault) (Except CompileError) where
  monadLift
    | .ok a => .ok a
    | .error f => .error (.unfit f)

end SearchSource
