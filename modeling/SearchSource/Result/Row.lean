import SearchSource.Result.Flatten
import SearchSource.Value.Literal

/-! Hits turned into rows. -/
namespace SearchSource
namespace Row

mutual

/-- Whether two keys count as one: texts by their characters, numbers by their value. -/
def sameKey : Value → Value → Bool
  | .tuple vs, .tuple ws => sameKeys vs ws
  | .null, .null => true
  | .bytes s, .bytes t => s = t
  | .date d, .date e => d = e
  | .moment m, .moment n => m.same n
  | v, w =>
    match v.asText?, w.asText? with
    | some s, some t => s = t
    | none, none => match v.toExact?, w.toExact? with
      | some p, some q => p = q
      | _, _ => false
    | _, _ => false

def sameKeys : List Value → List Value → Bool
  | [], [] => true
  | v :: vs, w :: ws => sameKey v w && sameKeys vs ws
  | _, _ => false

end

/-- Entries under keys of any type. -/
abbrev Pairs := List (Value × Value)

def putPair (key value : Value) : Pairs → Pairs
  | [] => [(key, value)]
  | (k, v) :: rest => if sameKey k key then (k, value) :: rest else (k, v) :: putPair key value rest

/-- The entry that a value of two elements stands for. -/
def pairOf (v : Value) : Except Fault (Value × Value) := do
  match ← v.elements with
  | [key, value] => if key.canBeKey then .ok (key, value) else .error .wrongType
  | _ => .error .badContent

/-- A mapping given as itself or as a sequence of pairs. -/
def pairsOf (v : Value) : Except Fault Pairs :=
  match v with
  | .object es => .ok (es.map fun e => (.text e.1, e.2))
  | .keyed k w => .ok [(k, w)]
  | v => do
    let items ← v.elements
    items.foldlM (fun acc item => do
      let (key, value) ← pairOf item
      return putPair key value acc) []

/-- The row of a hit: its stored document, made flat, with the names of the hit put over it. -/
def ofHit (hit : Value) : Except Fault (Entries Value) := do
  let stored ← hit.get "_source"
  let document ← if stored.holds then pairsOf stored else .ok []
  let document := putPair (.text "_id") (← hit.get "_id") document
  let kind ← hit.get "_type"
  let document := match kind with
    | .null => document
    | kind => putPair (.text "_type") kind document
  return Flatten.flatten "" (document.map fun p => (p.1.display, p.2))

end Row
end SearchSource
