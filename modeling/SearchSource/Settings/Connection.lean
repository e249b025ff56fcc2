import SearchSource.Settings.Class

/-! Settings of the connection to the engine. -/
namespace SearchSource
namespace Connection

/-- Where the engine is if nothing is said. -/
def defaultNode : String := "http://localhost:9200"

def valueOf (name : String) (es : Entries Value) : Value := (es.lookup name).getD .null

def className : String := "ElasticsearchSettings"

/-- Some node is needed, a user needs a password and a password a user, and a timeout is above
zero. -/
def check (es : Entries Value) : Except SetupError (Entries Value) := do
  let es := if (valueOf "node" es).holds || (valueOf "nodes" es).holds then es
    else Entries.put "node" (.text defaultNode) es
  let user := valueOf "username" es
  if user.holds ≠ (valueOf "password" es).holds then
    .error (.invalid "username" user "username and password must be set together")
  else
    requirePositive className "request_timeout" es
    return es

def settings : SettingsClass where
  name := className
  envStart := "ELASTICSEARCH"
  shared := []
  fields := [
    ⟨"_prefix", .written "dataclasses.ClassVar[str]", some (.text "ELASTICSEARCH")⟩,
    ⟨"node", .written "str | None", some .null⟩,
    ⟨"nodes", .written "list[str]", some (.list [])⟩,
    ⟨"api_key", .written "str | None", some .null⟩,
    ⟨"username", .written "str | None", some .null⟩,
    ⟨"password", .written "str | None", some .null⟩,
    ⟨"request_timeout", .written "float | None", some .null⟩,
    ⟨"verify_certs", .written "bool", some (.bool true)⟩]
  check := check

def hosts (es : Entries Value) : Except Fault (List Value) :=
  if (valueOf "nodes" es).holds then (valueOf "nodes" es).elements else .ok [valueOf "node" es]

def clientOptions (es : Entries Value) : Except Fault (Entries Value) := do
  let nodes ← hosts es
  let key := valueOf "api_key" es
  let user := valueOf "username" es
  let timeout := valueOf "request_timeout" es
  return [("hosts", .list nodes), ("verify_certs", valueOf "verify_certs" es)] ++
    (if key.holds then [("api_key", key)] else []) ++
    (if user.holds then [("basic_auth", .tuple [user, valueOf "password" es])] else []) ++
    (match timeout with
      | .null => []
      | t => [("request_timeout", t)])

end Connection
end SearchSource
