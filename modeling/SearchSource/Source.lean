import SearchSource.Transport
import SearchSource.Query.Assembly
import SearchSource.Query.Options
import SearchSource.Result.ResultSet
import SearchSource.Metrics.Search
import SearchSource.Log.Event

/-! A data source: it compiles a request, sends it once and reads the answer. -/
namespace SearchSource

/-- A data source with what can be seen of it: its transport, the registry it may record in, and its
log. -/
structure Source where
  transport : Transport
  registry : Registry
  metrics : Option SearchMetrics
  log : List LogEvent

/-- A failure of a data source: its own, or one of the transport that it passes on. -/
inductive SearchFailure
  | own (f : Failure)
  | passedOn (f : Failure)

namespace Source

/-- A data source over a transport, which records in a registry if it is told to. -/
def ofTransport (t : Transport) (recording : Bool) : Source :=
  if recording then
    let (m, r) := SearchMetrics.bind SearchMetrics.defaultLabel .empty
    ⟨t, r, some m, []⟩
  else ⟨t, .empty, none, []⟩

def component : String := "datasource-elasticsearch"

def emit (level : Level) (event : String) (fields : Entries Value) (s : Source) : Source :=
  { s with log := s.log ++ [⟨level, event, ("component", .text component) :: fields⟩] }

def recordWith (change : SearchMetrics → Registry → Registry) (s : Source) : Source :=
  match s.metrics with
  | some m => { s with registry := change m s.registry }
  | none => s

/-- Compile a request and note that it is sent. A request without a query changes nothing. -/
def prepare (request : SearchRequest) (s : Source) : Except Failure (SearchDocument × Source) := do
  let d ← (Assembly.assemble request : Except CompileError SearchDocument)
  let s := s.recordWith (·.querySent d.index)
  let s := s.emit .debug "search.compiled" [("index", .text d.index), ("search", .object d.entries)]
  return (d, s)

def send (d : SearchDocument) (s : Source) : Except Failure Value × Source :=
  let (outcome, t) := s.transport.search d
  (outcome, { s with transport := t })

/-- Note that a search failed. What the engine turned down becomes a report of a bad request; the
rest is passed on, and what may not be caught is not even noted. -/
def settleFailure (d : SearchDocument) (f : Failure) (s : Source) : SearchFailure × Source :=
  if f.isCatchable then
    let s := s.recordWith (·.queryFailed d.index f.className)
    match s.transport.isBadRequest f with
    | .error fault => (.own (.unfit fault), s)
    | .ok true =>
      (.own (.ofEngine f "elasticsearch"),
        s.emit .warning "search.rejected" [("index", .text d.index), ("error", .text f.className)])
    | .ok false =>
      (.passedOn f, s.emit .error "search.failed"
        [("index", .text d.index), ("error", .text f.literal)])
  else (.passedOn f, s)

/-- Values that JSON does not know are written as they are displayed. -/
def explainStyle : Json.Style := ⟨true, Value.display⟩

def explainKey : String := "elasticsearch"

/-- The search that was sent and what the engine tells about its work. -/
def explainPayload (d : SearchDocument) (response : Value) : Except Fault Value := do
  let document := Value.object d.entries
  let took ← response.get "took"
  let shards ← response.get "_shards"
  let timedOut ← response.get "timed_out"
  match Json.fault? document with
  | some fault => .error fault
  | none =>
    return .object [("search", .text (Json.write explainStyle document)), ("took", took),
      ("_shards", shards), ("timed_out", timedOut)]

def recordTook (d : SearchDocument) (time : Value) (s : Source) : Except Fault Source :=
  match s.metrics with
  | some m => do
    let r ← m.took d.index time s.registry
    return { s with registry := r }
  | none =>
    match time with
    | .null => .ok s
    | time => do
      let _ ← time.toFloat
      return s

/-- Explain a search in the place that the request gives. -/
def explainIn (request : SearchRequest) (d : SearchDocument) (response : Value) :
    Except Fault (Option (Entries Value)) :=
  match request.explain with
  | none => .ok none
  | some es => do
    let payload ← explainPayload d response
    return some (Entries.put explainKey payload es)

/-- Read the answer to a request. Time is noted once the result is known, and the search is
explained last; a failure on the way leaves what was noted before it. -/
def settleAnswer (request : SearchRequest) (d : SearchDocument) (response : Value) (s : Source) :
    Except Failure (ResultSet × Option (Entries Value)) × Source :=
  match ResultSet.ofResponse response request.aggregates with
  | .error f => (.error f, s)
  | .ok result =>
    match response.get "took" with
    | .error f => (.error (.unfit f), s)
    | .ok time =>
      match s.recordTook d time with
      | .error f => (.error (.unfit f), s)
      | .ok s =>
        let s := s.emit .debug "search.completed"
          [("index", .text d.index), ("took", time), ("rows", .int result.size),
            ("total_count", result.totalCount)]
        match explainIn request d response with
        | .error f => (.error (.unfit f), s)
        | .ok explain => (.ok (result, explain), s)

/-- What a search comes to: a result, or a failure, with what the request's place for explanations
then holds. -/
structure Execution where
  outcome : Except SearchFailure ResultSet
  explain : Option (Entries Value)

def execute (request : SearchRequest) (s : Source) : Execution × Source :=
  match s.prepare request with
  | .error f => (⟨.error (.own f), request.explain⟩, s)
  | .ok (d, s) =>
    match s.send d with
    | (.error f, s) =>
      let (failure, s) := s.settleFailure d f
      (⟨.error failure, request.explain⟩, s)
    | (.ok response, s) =>
      match s.settleAnswer request d response with
      | (.error f, s) => (⟨.error (.own f), request.explain⟩, s)
      | (.ok (result, explain), s) => (⟨.ok result, explain⟩, s)

def executeAll : List SearchRequest → Source → List Execution × Source
  | [], s => ([], s)
  | r :: rs, s =>
    let (e, s) := s.execute r
    let (es, s) := executeAll rs s
    (e :: es, s)

def close (s : Source) : Source := { s with transport := s.transport.close }

end Source
end SearchSource
