import SearchSource.Query.Filter
import SearchSource.Query.Aggregation
import SearchSource.Query.Document
import SearchSource.Text.Separated

/-! A request assembled into the document that is sent. -/
namespace SearchSource
namespace Assembly
open SearchSource.Number

/-- The page size of a request without a limit, as the engine knows no "all". -/
def fallbackSize : Int := 1000000

/-- Only an integer limits the page. -/
def pageSize : Value → Int
  | .int n => n
  | _ => fallbackSize

/-- How many hits come before a page, in the arithmetic of the page's own type. -/
def pageStart (page : Value) (size : Int) : Except Fault Value :=
  match page with
  | .int n => .ok (.int ((n - 1) * size))
  | .bool b => .ok (.int (((if b then 1 else 0) - 1) * size))
  | .float x => match ofInt? size with
    | some s => .ok (.float ((x - 1.0) * s))
    | none => .error .outOfRange
  | .decimal d => do
    let before ← Fault.ofSignal d.minusOne
    let start ← Fault.ofSignal (before.times size)
    return .decimal start
  | _ => .error .wrongType

def allFields : String := "_all"

def orEmpty (m : Option (Entries Value)) : Entries Value := m.getD []

/-- A phrase with an unfinished last word, looked for in the boosted fields; a field value may
change the score. -/
def textQuery (search : String) (options : QueryOptions) : Entries Value :=
  let boost := options.boost.getD []
  let fields := if boost.isEmpty then [allFields] else boost
  let phrase : Entries Value := [("multi_match", .object
    [("type", .text "phrase_prefix"), ("query", .text search),
      ("fields", SearchDocument.texts fields)])]
  let factor := orEmpty options.fieldValueFactor
  if factor.isEmpty then phrase
  else [("function_score",
    .object [("query", .object phrase), ("field_value_factor", .object factor)])]

/-- The text part of a query: the request's own query if there is one, else a search for its
text. -/
def textPart (r : SearchRequest) : Entries Value :=
  match r.ownQuery with
  | some q => q
  | none => match r.search with
    | some s => if s = "" then [] else textQuery s r.options
    | none => []

/-- The filter and the text part joined; none if both are missing. -/
def joinQuery (filter : Option Query) (text : Entries Value) : Option Value :=
  match filter with
  | some q =>
    if text.isEmpty then some q.toValue
    else some (.object [("bool", .object [("must", .list [q.toValue, .object text])])])
  | none => if text.isEmpty then none else some (.object text)

/-- Hits of equal standing go by score. -/
def scoreSort : Value := .text "_score"

def single (key value : Value) : Except Fault Value :=
  match key.asText? with
  | some s => .ok (.object [(s, value)])
  | none => if key.canBeKey then .ok (.keyed key value) else .error .wrongType

def sortCriterion (sortMap : Entries Value) (c : OrderCriterion) : Except Fault Value :=
  let mapped := (sortMap.lookup c.path).getD .null
  single (if mapped.holds then mapped else .text c.path) c.direction

def sort (order : List OrderCriterion) (sortMap : Option (Entries Value)) :
    Except Fault (List Value) := do
  let criteria ← order.mapM (sortCriterion (orEmpty sortMap))
  return criteria ++ [scoreSort]

/-- What to ask for to get an attribute: a nested one needs its whole outermost object. -/
def sourcePath (path : String) : String :=
  match Text.breakAt? '.' path.toList with
  | some (top, _) => String.ofList top ++ ".*"
  | none => path

/-- The projection to some attributes, without repetitions; none asks for everything. -/
def source (paths : List String) : Option (List String) :=
  if paths.isEmpty then none
  else some ((paths.map sourcePath).foldl (fun acc p => if p ∈ acc then acc else acc ++ [p]) [])

/-- The document of a request. Aggregates without a limit want no hits. -/
def assemble (r : SearchRequest) : Except CompileError SearchDocument := do
  let size := pageSize r.limit
  let start ←
    if r.page.holds then some <$> (pageStart r.page size : Except Fault Value) else pure none
  let filter ← Filter.compile r.filter
  let query := joinQuery filter (textPart r)
  let aggregations ← Aggregation.compile [] r.aggregates
  let countOnly := !r.aggregates.isEmpty && !r.limit.holds
  let order ← if r.order.isEmpty then pure none
    else some <$> (sort r.order r.options.sortMap : Except Fault (List Value))
  let body : Entries Value :=
    [("size", .int (if countOnly then 0 else size))] ++
      (start.map fun v => ("from", v)).toList ++
      (query.map fun q => ("query", q)).toList ++
      (if r.aggregates.isEmpty then []
        else [("aggs", .object (Aggregation.toEntries aggregations))]) ++
      (order.map fun vs => ("sort", Value.list vs)).toList
  return ⟨r.index, body, source r.attributes,
    if countOnly then some SearchDocument.countType else none⟩

end Assembly
end SearchSource
