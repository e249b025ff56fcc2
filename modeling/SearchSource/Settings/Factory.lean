import SearchSource.Settings.EnvFile
import SearchSource.Log.Event

/-! Settings merged from several sources. -/
namespace SearchSource

/-- A value for each field of an instance of the class. -/
def SettingsClass.IsInstance (c : SettingsClass) (es : Entries Value) : Prop :=
  ∃ given made, c.construct given = .ok made ∧ es.keys = made.keys

theorem SettingsClass.isInstance_of_construct {c : SettingsClass} {given es : Entries Value}
    (h : c.construct given = .ok es) : c.IsInstance es := ⟨given, es, h, rfl⟩

theorem Environment.isInstance_of_load {c : SettingsClass} {env : Environment} {es : Entries Value}
    (h : load c env = .ok es) : c.IsInstance es := by
  unfold load at h
  split at h
  · cases h
  · split at h
    · next hmade =>
      cases h
      exact c.isInstance_of_construct hmade
    · cases h

/-- A source of settings: the name of its class, and the instance of a class that it gives, or how
it fails, with the environment that it leaves either way. -/
structure SettingsLoader where
  className : String
  load : SettingsClass → (canReadFiles : Bool) → Environment →
    Except Failure (Entries Value) × Environment
  isInstance : ∀ {c canReadFiles env es}, (load c canReadFiles env).1 = .ok es → c.IsInstance es

namespace SettingsLoader

def environment : SettingsLoader where
  className := "EnvSettingsLoader"
  load c _ env := (Environment.load c env, env)
  isInstance h := Environment.isInstance_of_load h

/-- What a reader of variable files that is not installed is answered with. -/
def envFileMissing : Failure :=
  .unavailable "Install 'mp-elasticsearch[dotenv]' to use DotenvSettingsLoader"

/-- A file of variables, and then the environment. It is read even if there is no instance. -/
def envFile (read : FileReader) (content : Option String) (override : Bool) : SettingsLoader where
  className := "DotenvSettingsLoader"
  load c canReadFiles env :=
    if canReadFiles then
      match read content override env with
      | .ok env => (Environment.load c env, env)
      | .error f => (.error f, env)
    else (.error envFileMissing, env)
  isInstance h := by
    split at h
    · split at h
      · exact Environment.isInstance_of_load h
      · cases h
    · cases h

/-- A source of some class that makes an instance of given values. -/
def given (className : String) (values : Entries Value) : SettingsLoader where
  className := className
  load c _ env := ((c.construct values).mapError SetupError.toFailure, env)
  isInstance {c _ _ _} h := by
    cases hmade : c.construct values with
    | error e =>
      rw [hmade] at h
      cases h
    | ok made =>
      rw [hmade] at h
      cases h
      exact c.isInstance_of_construct hmade

def failing (className : String) (f : Failure) : SettingsLoader where
  className := className
  load _ _ env := (.error f, env)
  isInstance := nofun

end SettingsLoader

namespace SettingsFactory

def skipped (loader : SettingsLoader) (f : Failure) : LogEvent :=
  ⟨.warning, "settings.loader_skipped",
    [("loader", .text loader.className), ("error", .text f.message)]⟩

/-- All fields of the sources in turn, later ones over earlier ones. A source with a faulty
configuration is noted and passed over; any other failure ends the work. -/
def gather (c : SettingsClass) (canReadFiles : Bool) (merged : Entries Value) (env : Environment) :
    List SettingsLoader → Except Failure (Entries Value) × List LogEvent
  | [] => (.ok merged, [])
  | l :: ls =>
    match l.load c canReadFiles env with
    | (.ok es, env) => gather c canReadFiles (Entries.merge merged es) env ls
    | (.error f, env) =>
      if f.isConfig then
        let (r, events) := gather c canReadFiles merged env ls
        (r, skipped l f :: events)
      else (.error f, [])

/-- The instance of merged values; every field without a default has to be among them. -/
def finish (c : SettingsClass) (merged : Entries Value) : Except Failure (Entries Value) :=
  match c.fields.find? fun f => f.default?.isNone && !Entries.has f.name merged with
  | some f => .error (.ofKind (.missingSetting (.text f.name)))
  | none =>
    match c.construct merged with
    | .ok es => .ok es
    | .error e => .error (e.toReport ("Failed to construct " ++ c.name ++ ": "))

/-- Settings from the sources, or from the environment if none are named, with the overrides over
all. -/
def create (c : SettingsClass) (canReadFiles : Bool) (loaders : Option (List SettingsLoader))
    (overrides : Entries Value) (env : Environment) :
    Except Failure (Entries Value) × List LogEvent :=
  match gather c canReadFiles [] env (loaders.getD [.environment]) with
  | (.error f, events) => (.error f, events)
  | (.ok merged, events) => (finish c (Entries.merge merged overrides), events)

end SettingsFactory
end SearchSource
