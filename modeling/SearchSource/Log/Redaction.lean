import SearchSource.Value
import SearchSource.Text.Case

/-! Values of sensitive keys kept out of what is written. -/
namespace SearchSource

/-- The keys whose values are replaced, in lower case, and the keys that pass at the top. -/
structure Redaction where
  sensitive : List String
  skipped : List String

namespace Redaction

def mark : Value := .text "[REDACTED]"

def defaultSensitive : List String :=
  ["api_key", "authorization", "basic_auth", "bearer_auth", "password", "secret", "token"]

/-- The bodies of searches have index attributes for keys. -/
def defaultSkipped : List String := ["search"]

/-- Keys are compared in lower case; without any the default ones are sensitive. -/
def ofFields (fields : List String) (skipped : List String) : Redaction :=
  ⟨(if fields.isEmpty then defaultSensitive else fields).map Text.lower, skipped⟩

def isSensitive (r : Redaction) (key : String) : Bool := r.sensitive.contains (Text.lower key)

def shallow (r : Redaction) (es : Entries Value) : Entries Value :=
  es.map fun e => if r.isSensitive e.1 then (e.1, mark) else e

/-- What replacing leaves at every depth of nested mappings; the `skipped` keys pass at the top. -/
def replaced (r : Redaction) (skipped : List String) : List (String × Value) → List (String × Value)
  | [] => []
  | (k, .object inner) :: rest =>
    (if r.isSensitive k then (k, mark)
      else if k ∈ skipped then (k, .object inner)
      else (k, .object (replaced r [] inner))) :: replaced r skipped rest
  | (k, v) :: rest => (if r.isSensitive k then (k, mark) else (k, v)) :: replaced r skipped rest

/-- A key that is no text is not put in lower case, so a mapping with one cannot be looked into. -/
def fault? (r : Redaction) (skipped : List String) : List (String × Value) → Option Fault
  | [] => none
  | (k, .object inner) :: rest =>
    (if r.isSensitive k ∨ k ∈ skipped then none else fault? r [] inner).or (fault? r skipped rest)
  | (k, .keyed _ _) :: rest =>
    (if r.isSensitive k ∨ k ∈ skipped then none else some .noKeys).or (fault? r skipped rest)
  | _ :: rest => fault? r skipped rest

def deep (r : Redaction) (skipped : List String) (es : Entries Value) :
    Except Fault (Entries Value) :=
  match r.fault? skipped es with
  | some f => .error f
  | none => .ok (r.replaced skipped es)

def process (r : Redaction) (es : Entries Value) : Except Fault (Entries Value) :=
  r.deep r.skipped es

end Redaction
end SearchSource
