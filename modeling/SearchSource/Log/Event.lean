import SearchSource.Value

/-! Events that are logged. -/
namespace SearchSource

inductive Level
  | debug
  | info
  | warning
  | error
  | critical
deriving DecidableEq, Repr

namespace Level

def word : Level → String
  | debug => "debug"
  | info => "info"
  | warning => "warning"
  | error => "error"
  | critical => "critical"

def weight : Level → Int
  | debug => 10
  | info => 20
  | warning => 30
  | error => 40
  | critical => 50

def all : List Level := [debug, info, warning, error, critical]

def ofWord? (s : String) : Option Level := all.find? (·.word = s)

def synonyms : List (String × Level) :=
  [("warn", warning), ("fatal", critical), ("exception", error)]

def ofMethod? (s : String) : Option Level := (ofWord? s).or (synonyms.lookup s)

end Level

/-- An event with its fields, those of the logger first. -/
structure LogEvent where
  level : Level
  event : String
  fields : Entries Value

def LogEvent.entries (e : LogEvent) : Entries Value :=
  Entries.merge e.fields [("event", .text e.event), ("log_level", .text e.level.word)]

end SearchSource
