import SearchSource.Value

/-! Nested mappings made flat, with dotted keys. -/
namespace SearchSource.Flatten

/-- Put the leaves under `entries` into `flat`, each under its path. Sequences stay whole, and so
does a mapping whose key is no text. -/
def into (start : String) (flat : Entries Value) : List (String × Value) → Entries Value
  | [] => flat
  | (k, .object inner) :: rest =>
    into start (Entries.merge flat (into (start ++ k ++ ".") [] inner)) rest
  | (k, v) :: rest => into start (Entries.put (start ++ k) v flat) rest

/-- The leaves of a mapping under their paths; a path starts with `start`. -/
def flatten (start : String) (es : Entries Value) : Entries Value := into start [] es

end SearchSource.Flatten
