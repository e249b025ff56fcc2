import SearchSource.Value.Literal

/-! Counters and histograms kept in memory. -/
namespace SearchSource

/-- One call of an instrument: the value and its labels. -/
structure Measurement where
  value : Value
  labels : Value

structure Counter where
  total : Float
  calls : List Measurement

structure Histogram where
  calls : List Measurement

/-- The instruments by name. Every reset begins a new generation, and what holds an instrument of an
older one records where nobody looks. -/
structure Registry where
  generation : Nat
  counters : Entries Counter
  histograms : Entries Histogram

def Value.addend : Value → Except Fault Float
  | .int n => Value.toFloat (.int n)
  | .bool b => Value.toFloat (.bool b)
  | .float x => .ok x
  | _ => .error .wrongType

namespace Registry

def empty : Registry := ⟨0, [], []⟩

/-- The counter of a name, made if it is not there. -/
def ensureCounter (name : String) (r : Registry) : Registry :=
  if Entries.has name r.counters then r
  else { r with counters := Entries.put name ⟨0.0, []⟩ r.counters }

def ensureHistogram (name : String) (r : Registry) : Registry :=
  if Entries.has name r.histograms then r
  else { r with histograms := Entries.put name ⟨[]⟩ r.histograms }

/-- A counter after one more call: the call is kept even if its value is no addend. -/
def Counter.add (c : Counter) (m : Measurement) : Counter × Except Fault Unit :=
  let calls := c.calls ++ [m]
  match m.value.addend with
  | .ok x => (⟨c.total + x, calls⟩, .ok ())
  | .error f => (⟨c.total, calls⟩, .error f)

def add (name : String) (m : Measurement) (r : Registry) : Registry × Except Fault Unit :=
  let c := (r.counters.lookup name).getD ⟨0.0, []⟩
  let (c, outcome) := Counter.add c m
  ({ r with counters := Entries.put name c r.counters }, outcome)

def record (name : String) (m : Measurement) (r : Registry) : Registry :=
  let h := (r.histograms.lookup name).getD ⟨[]⟩
  { r with histograms := Entries.put name ⟨h.calls ++ [m]⟩ r.histograms }

/-- Why a counter does not have the expected number of calls; none if it has. -/
def complaint? (name : String) (expected : Value) (r : Registry) : Except Fault (Option String) :=
  match r.counters.lookup name with
  | none => .ok (some ("Counter '" ++ name ++ "' was never created"))
  | some c => do
    if ← expected.equalsInt c.calls.length then return none
    else
      return some ("Counter '" ++ name ++ "' was incremented " ++ toString c.calls.length ++
        " time(s), expected " ++ expected.display)

def reset (r : Registry) : Registry := ⟨r.generation + 1, [], []⟩

end Registry
end SearchSource
