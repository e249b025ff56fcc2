import SearchSource.Failure
import SearchSource.Query.Document

/-! The two ways to the engine: a scripted one that keeps what it was asked, and the engine's
client. -/
namespace SearchSource

inductive Outcome
  | answer (response : Value)
  | failure (f : Failure)

/-- The exception that ends a sequence of items. -/
def Outcome.endOfItems : String := "StopIteration"

/-- What the one who searches gets: the end of a sequence of items is not handed on as it is. -/
def Outcome.result : Outcome → Except Failure Value
  | answer v => .ok v
  | failure (.raised e status) =>
    .error (if e.name = endOfItems then .brokenOff else .raised e status)
  | failure f => .error f

/-- Outcomes given out in the order they were queued, and one for when there are none. -/
structure Script where
  queue : List Outcome
  otherwise : Value

namespace Script

def noHits : Value := .object [("hits", .object [("hits", .list [])])]

def next (s : Script) : Outcome × Script :=
  match s.queue with
  | [] => (.answer s.otherwise, s)
  | o :: rest => (o, { s with queue := rest })

def add (o : Outcome) (s : Script) : Script := { s with queue := s.queue ++ [o] }

end Script

inductive Transport
  /-- Everything is scripted; the documents that were sent are kept. -/
  | scripted (script : Script) (documents : List SearchDocument) (closed : Bool)
  /-- The engine's client; the arguments of its calls are kept. -/
  | client (script : Script) (calls : List (Entries Value)) (closed : Bool)

namespace Transport

/-- Parts of a body and the names of the client's arguments for them. -/
def bodyArguments : List (String × String) :=
  [("query", "query"), ("aggs", "aggs"), ("sort", "sort"), ("from", "from_"), ("size", "size")]

def legacySearchTypes : List String := ["count", "scan"]

/-- The arguments of the client's search for a document. -/
def arguments (d : SearchDocument) : Entries Value :=
  [("index", .text d.index)] ++
    bodyArguments.filterMap (fun p => (d.body.lookup p.1).map fun v => (p.2, v)) ++
    (d.source.map fun s => ("source", SearchDocument.texts s)).toList ++
    (match d.searchType with
      | some t => if t = "" ∨ t ∈ legacySearchTypes then [] else [("search_type", .text t)]
      | none => [])

def search (d : SearchDocument) : Transport → Except Failure Value × Transport
  | scripted s ds closed =>
    let (o, s) := s.next
    (o.result, scripted s (ds ++ [d]) closed)
  | client s calls closed =>
    let (o, s) := s.next
    (o.result, client s (calls ++ [arguments d]) closed)

def badRequestStatus : Int := 400

def status? : Failure → Option Value
  | .raised _ status => status
  | .engine _ status => status.map .int
  | _ => none

/-- Whether the engine turned the request itself down. A status that cannot be compared is a
fault. -/
def isBadRequest (f : Failure) : Transport → Except Fault Bool
  | scripted _ _ _ => match status? f with
    | some status => status.equalsInt badRequestStatus
    | none => .ok false
  | client _ _ _ => match f with
    | .engine _ (some status) => .ok (status = badRequestStatus)
    | _ => .ok false

def close : Transport → Transport
  | scripted s ds _ => scripted s ds true
  | client s calls _ => client s calls true

def isClosed : Transport → Bool
  | scripted _ _ closed => closed
  | client _ _ closed => closed

def respond (o : Outcome) : Transport → Transport
  | scripted s ds closed => scripted (s.add o) ds closed
  | client s calls closed => client (s.add o) calls closed

/-- Set the answer that is given when nothing is queued. -/
def answerOtherwise (v : Value) : Transport → Transport
  | scripted s ds closed => scripted { s with otherwise := v } ds closed
  | t => t

/-- The documents that were sent; only a scripted transport keeps them. -/
def documents? : Transport → Option (List SearchDocument)
  | scripted _ ds _ => some ds
  | client _ _ _ => none

def lastDocument (ds : List SearchDocument) : Except Failure SearchDocument :=
  match ds.getLast? with
  | some d => .ok d
  | none => .error (.assertion "No search was sent")

/-- What a client that is not installed is answered with. -/
def clientMissing : Failure :=
  .unavailable "Install 'mp-elasticsearch[elasticsearch]' to use the Elasticsearch adapter"

end Transport
end SearchSource
