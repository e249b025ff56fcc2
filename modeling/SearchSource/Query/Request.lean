import SearchSource.Value

/-! Requests for a search, independent of any engine. -/
namespace SearchSource

/-- One test of the attribute at a path; the operator is checked when the filter is compiled. -/
structure Condition where
  path : String
  operator : Value
  value : Value

/-- Some group holds, and a group holds when all its conditions do. -/
abbrev FilterExpression := List (List Condition)

/-- A named aggregate over one field, with aggregates inside its buckets. -/
structure AggregateSpec where
  function : Value
  fields : List String
  name : Option String
  limit : Value
  children : List AggregateSpec
deriving Inhabited

structure OrderCriterion where
  path : String
  direction : Value

/-- Search tuning of one resource. -/
structure QueryOptions where
  /-- Fields that a text search looks at, each with its weight. -/
  boost : Option (List String)
  /-- A field whose value changes the score. -/
  fieldValueFactor : Option (Entries Value)
  /-- Names under which attributes are sorted. -/
  sortMap : Option (Entries Value)

def QueryOptions.default : QueryOptions := ⟨none, none, none⟩

structure SearchRequest where
  index : String
  filter : FilterExpression
  search : Option String
  options : QueryOptions
  /-- A query in the engine's own language; it takes the place of the text search. -/
  ownQuery : Option (Entries Value)
  aggregates : List AggregateSpec
  order : List OrderCriterion
  /-- An integer is a page size; anything else asks for no limit. -/
  limit : Value
  /-- Pages count from one. -/
  page : Value
  attributes : List String
  /-- Where the compiled search and the engine's timing are noted after a success. -/
  explain : Option (Entries Value)

end SearchSource
