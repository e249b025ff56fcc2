import SearchSource.Metrics.Search
import SearchSource.Proofs.Entries

/-! What the instruments of a search were called with. Main statements: each of the three notes
appends one call to one instrument, and a registry of an older generation is left alone. -/
namespace SearchSource

/-- The calls of the three instruments of a search, oldest first. -/
@[ext] structure Ledger where
  queries : List Measurement
  failures : List Measurement
  times : List Measurement

namespace Ledger

def empty : Ledger := ⟨[], [], []⟩

instance : Append Ledger where
  append a b := ⟨a.queries ++ b.queries, a.failures ++ b.failures, a.times ++ b.times⟩

@[simp] theorem queries_append (a b : Ledger) : (a ++ b).queries = a.queries ++ b.queries := rfl

@[simp] theorem failures_append (a b : Ledger) : (a ++ b).failures = a.failures ++ b.failures := rfl

@[simp] theorem times_append (a b : Ledger) : (a ++ b).times = a.times ++ b.times := rfl

@[simp] theorem append_empty (a : Ledger) : a ++ empty = a := by ext1 <;> simp [empty]

@[simp] theorem empty_append (a : Ledger) : empty ++ a = a := by ext1 <;> simp [empty]

theorem append_assoc (a b c : Ledger) : a ++ b ++ c = a ++ (b ++ c) := by ext1 <;> simp

end Ledger

namespace Registry

/-- The calls of the counter of a name. -/
def counted (name : String) (r : Registry) : List Measurement :=
  ((r.counters.lookup name).map (·.calls)).getD []

/-- The calls of the histogram of a name. -/
def recorded (name : String) (r : Registry) : List Measurement :=
  ((r.histograms.lookup name).map (·.calls)).getD []

theorem calls_add (c : Counter) (m : Measurement) : (Counter.add c m).1.calls = c.calls ++ [m] := by
  unfold Counter.add
  cases m.value.addend <;> rfl

theorem counted_add (name k : String) (m : Measurement) (r : Registry) :
    (r.add name m).1.counted k = if k = name then r.counted name ++ [m] else r.counted k := by
  unfold counted add
  simp only [Entries.lookup_put]
  split
  · rw [Option.map_some, Option.getD_some, calls_add]
    cases r.counters.lookup name <;> rfl
  · rfl

theorem recorded_record (name k : String) (m : Measurement) (r : Registry) :
    (r.record name m).recorded k = if k = name then r.recorded name ++ [m] else r.recorded k := by
  unfold recorded record
  simp only [Entries.lookup_put]
  split
  · cases r.histograms.lookup name <;> rfl
  · rfl

@[simp] theorem recorded_add (name k : String) (m : Measurement) (r : Registry) :
    (r.add name m).1.recorded k = r.recorded k := rfl

@[simp] theorem counted_record (name k : String) (m : Measurement) (r : Registry) :
    (r.record name m).counted k = r.counted k := rfl

/-- What a search has told a registry. -/
def ledger (r : Registry) : Ledger :=
  ⟨r.counted SearchMetrics.queries, r.counted SearchMetrics.failures,
    r.recorded SearchMetrics.tookTime⟩

end Registry

namespace SearchMetrics

/-- The label under which a search is counted, if its instruments are still those of the
registry. -/
def label? (m : SearchMetrics) (r : Registry) : Option String :=
  if m.generation = r.generation then some m.indexLabel else none

def queryCall (label index : String) : Measurement := one [(label, .text index)]

def failureCall (label index className : String) : Measurement :=
  one (Entries.put "error" (.text className) [(label, .text index)])

def timeCall (label index : String) (time : Float) : Measurement :=
  ⟨.float time, .object [(label, .text index)]⟩

/-- A change that keeps the generation, made only to the registry that the instruments belong to. -/
theorem generation_onOwn {change : Registry → Registry}
    (h : ∀ r, (change r).generation = r.generation) (m : SearchMetrics) (r : Registry) :
    (m.onOwn change r).generation = r.generation := by
  unfold onOwn
  split
  · exact h r
  · rfl

/-- What a change adds to the ledger is added if the registry is the instruments' own. -/
theorem ledger_onOwn {change : Registry → Registry} {m : SearchMetrics} {entry : String → Ledger}
    (h : ∀ r, (change r).ledger = r.ledger ++ entry m.indexLabel) (r : Registry) :
    (m.onOwn change r).ledger = r.ledger ++ ((m.label? r).map entry).getD .empty := by
  unfold onOwn label?
  split
  · exact h r
  · exact (Ledger.append_empty _).symm

@[simp] theorem generation_querySent (m : SearchMetrics) (index : String) (r : Registry) :
    (m.querySent index r).generation = r.generation := by
  apply generation_onOwn
  intro r
  rfl

@[simp] theorem generation_queryFailed (m : SearchMetrics) (index className : String)
    (r : Registry) :
    (m.queryFailed index className r).generation = r.generation := by
  apply generation_onOwn
  intro r
  rfl

theorem ledger_querySent (m : SearchMetrics) (index : String) (r : Registry) :
    (m.querySent index r).ledger =
      r.ledger ++ ((m.label? r).map fun l => ⟨[queryCall l index], [], []⟩).getD .empty := by
  apply ledger_onOwn
  intro r
  ext1 <;> simp [Registry.ledger, Registry.counted_add, queries, failures, queryCall]

theorem ledger_queryFailed (m : SearchMetrics) (index className : String) (r : Registry) :
    (m.queryFailed index className r).ledger =
      r.ledger ++ ((m.label? r).map fun l =>
        ⟨[], [failureCall l index className], []⟩).getD .empty := by
  apply ledger_onOwn
  intro r
  ext1 <;> simp [Registry.ledger, Registry.counted_add, queries, failures, failureCall]

/-- Note a time that is already a number. -/
def noteTime (m : SearchMetrics) (index : String) (time : Float) : Registry → Registry :=
  m.onOwn (·.record tookTime ⟨.float time, .object [(m.indexLabel, .text index)]⟩)

@[simp] theorem generation_noteTime (m : SearchMetrics) (index : String) (time : Float)
    (r : Registry) :
    (m.noteTime index time r).generation = r.generation := by
  apply generation_onOwn
  intro r
  rfl

theorem ledger_noteTime (m : SearchMetrics) (index : String) (time : Float) (r : Registry) :
    (m.noteTime index time r).ledger =
      r.ledger ++ ((m.label? r).map fun l => ⟨[], [], [timeCall l index time]⟩).getD .empty := by
  apply ledger_onOwn
  intro r
  ext1 <;> simp [Registry.ledger, Registry.recorded_record, timeCall]

end SearchMetrics
end SearchSource
