import SearchSource.Exception
import SearchSource.Json.Printer

/-! Failures: the reports of this library with their wording, and what other parties raise. -/
namespace SearchSource

/-- The classes of reports, each with what it keeps besides its message. -/
inductive ReportKind
  | base
  | queryCompilation
  | unsupportedOperator (operator : Value)
  | invalidAggregation (function : Value)
  | nameConflict (function name : Value)
  | unsupportedAggregation (function : Value)
  | application
  | request
  | config
  | missingSetting (setting : Value)
  | invalidSetting (setting value reason : Value)

namespace ReportKind

def className : ReportKind → String
  | base => "BaseError"
  | queryCompilation => "QueryCompilationError"
  | unsupportedOperator _ => "UnsupportedOperatorError"
  | invalidAggregation _ => "InvalidAggregationError"
  | nameConflict _ _ => "AggregationAliasConflictError"
  | unsupportedAggregation _ => "UnsupportedAggregationError"
  | application => "ApplicationError"
  | request => "RequestError"
  | config => "ConfigError"
  | missingSetting _ => "MissingRequiredSettingError"
  | invalidSetting _ _ _ => "InvalidSettingValueError"

/-- The wider classes of a report, nearest first. -/
def ancestors : ReportKind → List ReportKind
  | base => []
  | queryCompilation => [base]
  | unsupportedOperator _ => [queryCompilation, base]
  | invalidAggregation _ => [queryCompilation, base]
  | nameConflict f _ => [invalidAggregation f, queryCompilation, base]
  | unsupportedAggregation _ => [queryCompilation, base]
  | application => [base]
  | request => [application, base]
  | config => [application, base]
  | missingSetting _ => [config, application, base]
  | invalidSetting _ _ _ => [config, application, base]

def defaultCode : ReportKind → String
  | base => "base_error"
  | queryCompilation => "query_compilation_error"
  | unsupportedOperator _ => "unsupported_operator"
  | invalidAggregation _ => "invalid_aggregation"
  | nameConflict _ _ => "aggregation_alias_conflict"
  | unsupportedAggregation _ => "unsupported_aggregation"
  | application => "application_error"
  | request => "bad_request"
  | config => "config_error"
  | missingSetting _ => "missing_required_setting"
  | invalidSetting _ _ _ => "invalid_setting_value"

/-- The message that the class words itself, if it does. -/
def wording? : ReportKind → Option String
  | unsupportedOperator o => some ("Operator \"" ++ o.display ++ "\" not implemented")
  | invalidAggregation f =>
    some ("Invalid " ++ f.display ++ " aggregation: requires exactly one field")
  | nameConflict f a =>
    some ("Invalid " ++ f.display ++ " aggregation: alias '" ++ a.display ++ "' is already in use")
  | unsupportedAggregation f => some ("Unsupported aggregate function: " ++ f.display)
  | missingSetting s => some ("Required setting '" ++ s.display ++ "' is missing")
  | invalidSetting s v r =>
    some ("Setting '" ++ s.display ++ "' has invalid value " ++ v.literal ++ ": " ++ r.display)
  | base | queryCompilation | application | request | config => none

def ownDetail : ReportKind → Entries Value
  | unsupportedOperator o => [("operator", o)]
  | invalidAggregation f => [("function_name", f)]
  | nameConflict f a => [("function_name", f), ("alias", a)]
  | unsupportedAggregation f => [("function_name", f)]
  | missingSetting s => [("setting", s)]
  | invalidSetting s _ r => [("setting", s), ("reason", r)]
  | base | queryCompilation | application | request | config => []

def isConfig : ReportKind → Bool
  | config | missingSetting _ | invalidSetting _ _ _ => true
  | _ => false

end ReportKind

inductive Failure
  /-- A report of this library. -/
  | report (kind : ReportKind) (code message : String) (detail : List (String × Value))
      (cause : Option Failure)
  /-- An exception of another party, which may carry a status. -/
  | raised (e : Exception) (status : Option Value)
  /-- An exception of the search engine's client: an answer with a status, or a failed transport. -/
  | engine (e : Exception) (status : Option Int)
  /-- A search that ended as only a sequence of items can end. -/
  | brokenOff
  /-- A value that is unfit for an operation. -/
  | unfit (fault : Fault)
  /-- A statement about a run that does not hold. -/
  | assertion (message : String)
  /-- A package that is not installed. -/
  | unavailable (message : String)

namespace Failure

/-- A report with the message, code and detail of its class, unless others are given. An empty
message or code counts as not given. -/
def build (kind : ReportKind) (message : Option String) (code : Option String)
    (detail : Entries Value) (cause : Option Failure) : Failure :=
  let own := kind.wording?
  let message := match message with
    | some m => if m = "" then own.getD m else m
    | none => own.getD ""
  let code := match code with
    | some c => if c = "" then kind.defaultCode else c
    | none => kind.defaultCode
  .report kind code message (Entries.merge kind.ownDetail detail) cause

def ofKind (kind : ReportKind) : Failure := build kind none none [] none

def className : Failure → String
  | report kind _ _ _ _ => kind.className
  | raised e _ => e.name
  | engine e _ => e.name
  | brokenOff => "RuntimeError"
  | unfit .noKeys => "AttributeError"
  | unfit .wrongType => "TypeError"
  | unfit .badContent => "ValueError"
  | unfit .outOfRange => "OverflowError"
  | unfit (.stopped .undefinedResult) => "InvalidOperation"
  | unfit (.stopped .tooLarge) => "Overflow"
  | assertion _ => "AssertionError"
  | unavailable _ => "ImportError"

def message : Failure → String
  | report _ _ m _ _ => m
  | raised e _ => e.message
  | engine e _ => e.message
  | brokenOff => "coroutine raised StopIteration"
  | unfit (.stopped .undefinedResult) => "[<class 'decimal.InvalidOperation'>]"
  | unfit (.stopped .tooLarge) => "[<class 'decimal.Overflow'>]"
  | unfit _ => ""
  | assertion m => m
  | unavailable m => m

def literal : Failure → String
  | report kind code m _ _ =>
    kind.className ++ "(code=" ++ Text.quoted code ++ ", message=" ++ Text.quoted m ++ ")"
  | raised e _ => e.literal
  | engine e _ => e.literal
  | f => f.className ++ "(" ++ Text.quoted f.message ++ ")"

def isCatchable : Failure → Bool
  | raised e _ => !e.fatal
  | _ => true

def isConfig : Failure → Bool
  | report kind _ _ _ _ => kind.isConfig
  | _ => false

/-- The entries under which a report is handed on; other failures have their class and message. -/
def entries : Failure → Entries Value
  | report kind code m detail cause =>
    [("error", .text kind.className), ("code", .text code), ("message", .text m),
        ("detail", .object detail)] ++
      (cause.map fun c => [("cause", Value.text c.literal)]).getD []
  | f => [("error", .text f.className), ("message", .text f.message)]

def json (f : Failure) : String := Json.write ⟨false, Value.display⟩ (.object f.entries)

/-- A report that the engine turned a request down; its detail names the class of the failure that
said so. -/
def request (message : String) (code : Option String) (detail : Entries Value)
    (answered : Option Failure) : Failure :=
  let name : Value := (answered.map fun f => Value.text f.className).getD .null
  let detail :=
    if Entries.has "original_error" detail then detail else Entries.put "original_error" name detail
  build .request (some message) code detail answered

def ofEngine (answered : Failure) (engine : String) : Failure :=
  request (answered.className ++ " from " ++ engine ++ ".") none [] (some answered)

end Failure

instance : MonadLift (Except Fault) (Except Failure) where
  monadLift
    | .ok a => .ok a
    | .error f => .error (.unfit f)

end SearchSource
