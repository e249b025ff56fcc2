import SearchSource.Query.Request
import SearchSource.Failure
import SearchSource.Json.Reader
import SearchSource.Text.Separated

/-! Search tuning read from the configuration of a resource. -/
namespace SearchSource.QueryOptions

/-- Fields as one text with commas; any value that holds is taken as it is displayed. -/
def boostOf (v : Value) : Option (List String) :=
  if v.holds then some (Text.commaList v.display) else none

inductive MappingError
  | notJson (explanation : String)
  | notAnObject

def MappingError.reason : MappingError → String
  | notJson explanation => "not valid JSON (" ++ explanation ++ ")"
  | notAnObject => "expected a JSON object"

/-- What a reader found among the characters `cs`. -/
def explained (cs : List Char) : Except Json.Defect Value → Except MappingError Value
  | .ok v => .ok v
  | .error d => .error (.notJson (d.message cs))

/-- The value of a JSON text, given as a text or as bytes. A mark that opens bytes is passed over,
and their defects are located behind it. -/
def readJson (v : Value) : Except MappingError Value :=
  match v, v.asText? with
  | .bytes s, _ =>
    match Text.decodeSpelled s with
    | .ok cs => explained (Json.dropMark cs) (Json.readAll (Json.dropMark cs))
    | .error d => .error (.notJson d.message)
  | _, some s => explained s.toList (Json.read s)
  | v, none =>
    .error (.notJson ("the JSON object must be str, bytes or bytearray, not " ++ v.typeName))

/-- A mapping given as itself or as JSON; what does not hold gives none. -/
def mappingOf (v : Value) : Except MappingError (Option (Entries Value)) :=
  if v.holds then
    match v with
    | .object es => .ok (some es)
    | v => do
      match ← readJson v with
      | .object es => .ok (some es)
      | _ => .error .notAnObject
  else .ok none

def mappingUnder (key : String) (config : Entries Value) :
    Except Failure (Option (Entries Value)) :=
  let v := (config.lookup key).getD .null
  match mappingOf v with
  | .ok m => .ok m
  | .error e => .error (.ofKind (.invalidSetting (.text key) v (.text e.reason)))

def ofConfig (config : Entries Value) : Except Failure QueryOptions := do
  let boost := boostOf ((config.lookup "boost").getD .null)
  let factor ← mappingUnder "field_value_factor" config
  let sortMap ← mappingUnder "sort_map" config
  return ⟨boost, factor, sortMap⟩

end SearchSource.QueryOptions
