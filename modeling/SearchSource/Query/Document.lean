import SearchSource.Value

/-! What is handed to a transport: an index, a body and a projection. -/
namespace SearchSource

structure SearchDocument where
  index : String
  body : Entries Value
  /-- Parts of a stored document to return; without it all are. -/
  source : Option (List String)
  searchType : Option String

namespace SearchDocument

def countType : String := "count"

def isCountOnly (d : SearchDocument) : Bool := d.searchType = some countType

def texts (ss : List String) : Value := .list (ss.map .text)

/-- The document under the names that the engine gives its parts. -/
def entries (d : SearchDocument) : Entries Value :=
  [("index", .text d.index), ("body", .object d.body)] ++
    (d.source.map fun s => ("_source", texts s)).toList ++
    (d.searchType.map fun t => ("search_type", Value.text t)).toList

end SearchDocument
end SearchSource
