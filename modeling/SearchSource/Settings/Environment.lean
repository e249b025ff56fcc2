import SearchSource.Settings.Class
import SearchSource.Text.Case

/-! Settings read from environment variables. -/
namespace SearchSource

abbrev Environment := Entries String

namespace Environment

/-- The variable of a field: both parts in upper case with a low line between, and none at the
front. -/
def variableName (start field : String) : String :=
  String.ofList ((Text.upper (Text.upper start ++ "_" ++ field)).toList.dropWhile (· = '_'))

def truthy : List String := ["1", "true", "yes", "on"]

def startsWith (start s : String) : Bool := start.toList.isPrefixOf s.toList

/-- A text as a value of the annotated type. -/
def coerce (variableName value : String) (a : Annotation) : Except SetupError Value :=
  let type := a.typeName
  let expected : SetupError := .invalid variableName (.text value) ("expected " ++ type)
  if type = "bool" then .ok (.bool (truthy.contains (Text.lower value)))
  else if type = "int" then ((Number.integerOfText? value).map Value.int).elim (.error expected) .ok
  else if type = "float" then
    ((Number.realOfText? value).map fun r => Value.float r.toFloat).elim (.error expected) .ok
  else if startsWith "list" type || startsWith "tuple" type then
    .ok (.list ((Text.commaList value).map .text))
  else .ok (.text value)

/-- The fields that the environment gives; one that has to be given is required to be there. -/
def readFields (start : String) (env : Environment) :
    List SettingsField → Except SetupError (Entries Value)
  | [] => .ok []
  | f :: fs =>
    let variableName := variableName start f.name
    match env.lookup variableName with
    | none => if f.default?.isNone then .error (.missing variableName) else readFields start env fs
    | some raw => do
      let v ← coerce variableName raw f.annotation
      let others ← readFields start env fs
      return (f.name, v) :: others

def load (c : SettingsClass) (env : Environment) : Except Failure (Entries Value) :=
  match readFields c.envStart env c.fields with
  | .error e => .error e.toFailure
  | .ok given =>
    match c.construct given with
    | .ok es => .ok es
    | .error e => .error (e.toReport "Failed to load settings: ")

end Environment
end SearchSource
