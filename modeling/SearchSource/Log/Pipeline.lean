import SearchSource.Log.Event
import SearchSource.Log.Redaction
import SearchSource.Value.Literal
import SearchSource.Json.Printer

/-! From an entry of a log to the line that is written for it. -/
namespace SearchSource

structure LogConfig where
  level : Int
  transportLevel : Int
  redaction : Redaction

/-- An entry of this library's loggers, or one that comes from elsewhere. -/
inductive LogEntry
  | own (logger : String) (level : Level) (event : Value)
    (bound fields context : List (String × Value))
  | foreign (logger : String) (level : Level) (event : String)

namespace LogConfig

/-- Information is written, and warnings of the transport. -/
def defaultLevel : Int := 20

def defaultTransportLevel : Int := 30

def thresholdNames : List (String × Int) := [
  ("CRITICAL", 50), ("FATAL", 50), ("ERROR", 40), ("WARN", 30), ("WARNING", 30), ("INFO", 20),
  ("DEBUG", 10), ("NOTSET", 0)]

def thresholdOf : Value → Except Fault Int
  | .int n => .ok n
  | .bool b => .ok (if b then 1 else 0)
  | .text name => (thresholdNames.lookup name).elim (.error .badContent) .ok
  | _ => .error .wrongType

/-- The loggers of the engine's client, which have a threshold of their own. -/
def transportLoggers : List String := ["elasticsearch", "elastic_transport"]

def isUnder (parent logger : String) : Bool :=
  logger = parent || (parent ++ ".").toList.isPrefixOf logger.toList

/-- The weight that an entry needs. A threshold of zero is none, so the one above holds. -/
def threshold (c : LogConfig) (logger : String) : Int :=
  if transportLoggers.any (isUnder · logger) ∧ c.transportLevel ≠ 0 then c.transportLevel
  else c.level

end LogConfig

/-- What a logger is called with besides the event: its own name, and the level of the method. -/
structure LogCall where
  logger : String
  level : Level

/-- What is made of the entries of an event on their way to a line. -/
abbrev LogStep := LogCall → Entries Value → Except Fault (Entries Value)

/-- The steps of the logging package. -/
structure LogSteps where
  /-- The entries of an event: what the logger is bound to, and the fields and the event of the
  call. -/
  collect : (bound fields : Entries Value) → Value → Entries Value
  mergeContext : (context : Entries Value) → LogStep
  addLogger : LogStep
  addLevel : LogStep
  addTime : LogStep
  renderStack : LogStep
  /-- What the formatter leaves of an event, once its record has been handed on. -/
  removeRecord : LogStep

namespace LogPipeline

/-- Only at the lowest level are the bodies of searches of use. -/
def dropSearch (method : String) (es : Entries Value) : Entries Value :=
  if method = "debug" then es else Entries.drop "search" es

/-- The steps before an event is handed to the formatter. -/
def steps (p : LogSteps) (r : Redaction) (context : Entries Value) : List LogStep := [
  p.mergeContext context,
  fun _ es => r.process es,
  p.addLogger,
  p.addLevel,
  fun call es => .ok (dropSearch call.level.word es),
  p.addTime,
  p.renderStack]

def run (steps : List LogStep) (call : LogCall) (es : Entries Value) :
    Except Fault (Entries Value) :=
  steps.foldlM (fun es step => step call es) es

/-- Values that JSON does not know are written as their literals. -/
def style : Json.Style := ⟨true, Value.literal⟩

/-- The line that is written for what has been handed to the formatter, if it reaches the threshold
of its logger and JSON can be written of it. -/
def format? (p : LogSteps) (c : LogConfig) (call : LogCall) (es : Entries Value) :
    Except Fault (Option String) :=
  if call.level.weight < c.threshold call.logger then .ok none
  else do
    let es ← p.removeRecord call es
    return if (Json.fault? (.object es)).isSome then none else some (Json.write style (.object es))

/-- The line of an entry. One of this library is processed even below its threshold. -/
def line? (p : LogSteps) (c : LogConfig) : LogEntry → Except Fault (Option String)
  | .own logger level event bound fields context => do
    let call : LogCall := ⟨logger, level⟩
    let es ← run (steps p c.redaction context) call (p.collect bound fields event)
    format? p c call es
  | .foreign logger level event => format? p c ⟨logger, level⟩ [("event", .text event)]

end LogPipeline

/-! ### The steps of the installed package -/

namespace LogSteps

def rootLogger : String := "root"

def withEvent (event : Value) (es : Entries Value) : Entries Value :=
  match event with
  | .null => es
  | v => Entries.put "event" v es

/-- The context gives way to what the logger and the call have. -/
def merged (context es : Entries Value) : Entries Value :=
  context.foldl (fun acc e => if Entries.has e.1 acc then acc else Entries.put e.1 e.2 acc) es

/-- The key of an event's record; a record has a name, which is its logger's. -/
def recordKey : String := "_record"

def loggerName (logger : String) (es : Entries Value) : Except Fault String :=
  match es.lookup recordKey with
  | none | some .null => .ok (if logger = "" then rootLogger else logger)
  | some (.constant c) => .ok c.label
  | some _ => .error .noKeys

/-- The steps at some time of the day. -/
def installed (now : String) : LogSteps where
  collect bound fields event := withEvent event (Entries.merge bound fields)
  mergeContext context _ es := .ok (merged context es)
  addLogger call es :=
    (loggerName call.logger es).map fun name => Entries.put "logger" (.text name) es
  addLevel call es := .ok (Entries.put "level" (.text call.level.word) es)
  addTime _ es := .ok (Entries.put "timestamp" (.text now) es)
  renderStack _ es := .ok (Entries.drop "stack_info" es)
  removeRecord _ es := .ok (Entries.drop "_from_structlog" (Entries.drop recordKey es))

end LogSteps
end SearchSource
