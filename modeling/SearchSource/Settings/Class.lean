import SearchSource.Settings.Annotation
import SearchSource.Failure

/-! Classes of settings and the instances made of them. -/
namespace SearchSource

/-- A field; without a default it has to be given. -/
structure SettingsField where
  name : String
  annotation : Annotation
  default? : Option Value

inductive SetupError
  /-- What the check of a class raises itself. -/
  | raised (f : Failure) (catchable : f.isCatchable)
  | invalid (setting : String) (value : Value) (reason : String)
  | missing (setting : String)
  | unexpected (className name : String)
  /-- The instance itself is among the values. -/
  | repeated (className : String)
  | notGiven (className name : String)
  | unknownField (className name : String)
  | notComparable (typeName : String)
  /-- Decimal arithmetic does not come to a result. -/
  | stopped (s : Number.Signal)

/-- A class of settings; its check may fill in fields. -/
structure SettingsClass where
  name : String
  /-- What the names of its environment variables begin with. -/
  envStart : String
  /-- Names of values that all instances have in common. -/
  shared : List String
  fields : List SettingsField
  check : Entries Value → Except SetupError (Entries Value)

namespace SetupError

/-- The name that an instance goes by while it is made. -/
def instanceName : String := "self"

/-- What an error says when another one quotes it. -/
def explanation : SetupError → String
  | raised f _ => f.message
  | invalid s v r => (Failure.ofKind (.invalidSetting (.text s) v (.text r))).message
  | missing s => (Failure.ofKind (.missingSetting (.text s))).message
  | unexpected c n => c ++ ".__init__() got an unexpected keyword argument '" ++ n ++ "'"
  | repeated c => c ++ ".__init__() got multiple values for argument '" ++ instanceName ++ "'"
  | notGiven c n => c ++ ".__init__() missing 1 required positional argument: '" ++ n ++ "'"
  | unknownField c n =>
    "'" ++ String.ofList (Text.firstBytes 50 c.toList) ++ "' object has no attribute '" ++ n ++ "'"
  | notComparable t => "'<=' not supported between instances of '" ++ t ++ "' and 'int'"
  | stopped s => (Failure.unfit (.stopped s)).message

def toFailure : SetupError → Failure
  | raised f _ => f
  | invalid s v r => .ofKind (.invalidSetting (.text s) v (.text r))
  | missing s => .ofKind (.missingSetting (.text s))
  | unexpected _ _ | repeated _ | notGiven _ _ | notComparable _ => .unfit .wrongType
  | unknownField _ _ => .unfit .noKeys
  | stopped s => .unfit (.stopped s)

/-- An error that is no report of configuration becomes one, with `lead` before what it says. -/
def toReport (lead : String) (e : SetupError) : Failure :=
  if e.toFailure.isConfig then e.toFailure
  else .build .config (some (lead ++ e.explanation)) none [] none

end SetupError

namespace SettingsClass

def fieldNames (c : SettingsClass) : List String := c.fields.map (·.name)

/-- The value of each field, given or by default. -/
def fill (className : String) (given : Entries Value) :
    List SettingsField → Except SetupError (Entries Value)
  | [] => .ok []
  | f :: fs =>
    match (given.lookup f.name).or f.default? with
    | none => .error (.notGiven className f.name)
    | some v => do
      let others ← fill className given fs
      return (f.name, v) :: others

def construct (c : SettingsClass) (given : Entries Value) : Except SetupError (Entries Value) :=
  match given.find? fun e => e.1 ∉ c.fieldNames with
  | some e =>
    .error (if e.1 = SetupError.instanceName then .repeated c.name else .unexpected c.name e.1)
  | none => do
    let es ← fill c.name given c.fields
    c.check es

end SettingsClass

/-- Whether a value is above zero; a double that is no number is not at or below it, so it
passes. -/
def Value.isPositive : Value → Except SetupError Bool
  | .float x => .ok (!(x ≤ 0.0))
  | .decimal d => match d.isPositive with
    | .ok b => .ok b
    | .error s => .error (.stopped s)
  | .int n => .ok (0 < n)
  | .bool b => .ok b
  | v => .error (.notComparable v.fullTypeName)

/-- A field that is not `null` has to be above zero. -/
def requirePositive (className name : String) (es : Entries Value) : Except SetupError Unit :=
  match es.lookup name with
  | none => .error (.unknownField className name)
  | some .null => .ok ()
  | some v => do
    if ← v.isPositive then return
    else throw (.invalid name v "must be positive")

/-- The check that some fields are above zero, in the order given; `shared` are values of the class
itself. -/
def requireAllPositive (className : String) (shared : Entries Value) :
    List String → Entries Value → Except SetupError (Entries Value)
  | [], es => .ok es
  | n :: ns, es => do
    requirePositive className n (es ++ shared)
    requireAllPositive className shared ns es

end SearchSource
