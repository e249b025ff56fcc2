import SearchSource.Query.Request
import SearchSource.Query.CompileError

/-! Filters compiled to boolean queries. -/
namespace SearchSource

/-- The attribute that names a document itself. -/
def idAttribute : String := "_id"

/-- An end of a range, with the endpoint in it or not. -/
inductive Bound
  | above
  | least
  | below
  | most
deriving DecidableEq, Repr

def Bound.key : Bound → String
  | above => "gt"
  | least => "gte"
  | below => "lt"
  | most => "lte"

def FilterOperator.bound? : FilterOperator → Option Bound
  | equal => none
  | greater => some .above
  | greaterOrEqual => some .least
  | less => some .below
  | lessOrEqual => some .most

inductive Clause
  | ids (values : List Value)
  | terms (path : String) (values : List Value)
  | term (path : String) (value : Value)
  | range (path : String) (bounds : List (Bound × Value))

/-- A query: all of its parts have to match, or one of them. -/
inductive Query
  | clause (c : Clause)
  | must (parts : List Query)
  | should (parts : List Query)

namespace Clause

def boundEntries (bounds : List (Bound × Value)) : Entries Value :=
  bounds.map fun b => (b.1.key, b.2)

def toValue : Clause → Value
  | ids vs => .object [("ids", .object [("values", .list vs)])]
  | terms a vs => .object [("terms", .object [(a, .list vs)])]
  | term a v => .object [("term", .object [(a, v)])]
  | range a bs => .object [("range", .object [(a, .object (boundEntries bs))])]

end Clause

namespace Query

mutual

def toValue : Query → Value
  | clause c => c.toValue
  | must qs => .object [("bool", .object [("must", .list (toValues qs))])]
  | should qs => .object [("bool", .object [("should", .list (toValues qs))])]

def toValues : List Query → List Value
  | [] => []
  | q :: qs => toValue q :: toValues qs

end

/-- A single part stands for itself. -/
def combine (join : List Query → Query) : List Query → Option Query
  | [] => none
  | [q] => some q
  | qs => some (join qs)

end Query

namespace Filter

def operatorOf? (v : Value) : Option FilterOperator := v.asText?.bind FilterOperator.ofWord?

/-- A bound that is set again keeps its place and takes the new value. -/
def setBound (b : Bound) (v : Value) : List (Bound × Value) → List (Bound × Value)
  | [] => [(b, v)]
  | (c, w) :: rest => if c = b then (c, v) :: rest else (c, w) :: setBound b v rest

/-- Add documents to the clause that names them, or start one. -/
def addIds (vs : List Value) : List Clause → List Clause
  | [] => [.ids vs]
  | .ids ws :: rest => .ids (ws ++ vs) :: rest
  | c :: rest => c :: addIds vs rest

/-- Set a bound in the range of an attribute, or start one. -/
def addBound (path : String) (b : Bound) (v : Value) : List Clause → List Clause
  | [] => [.range path [(b, v)]]
  | .range a bs :: rest =>
    if a = path then .range a (setBound b v bs) :: rest
    else .range a bs :: addBound path b v rest
  | c :: rest => c :: addBound path b v rest

/-- The clauses of one attribute after one more test of it: tests for documents share a clause,
bounds share a range, and equality with a sequence asks for one of its items. -/
def addTest (path : String) (clauses : List Clause) (o : FilterOperator) (v : Value) :
    List Clause :=
  match o.bound? with
  | some b => addBound path b v clauses
  | none =>
    if path = idAttribute then addIds (v.asSequence?.getD [v]) clauses
    else match v.asSequence? with
      | some vs => clauses ++ [.terms path vs]
      | none => clauses ++ [.term path v]

/-- The conditions by attribute, both in order of first appearance. -/
def byAttribute : List Condition → Entries (List Condition)
  | cs => cs.foldl (fun groups c =>
      Entries.put c.path ((groups.lookup c.path).getD [] ++ [c]) groups) []

def attributeClauses (path : String) : List Clause → List Condition →
    Except CompileError (List Clause)
  | clauses, [] => .ok clauses
  | clauses, c :: cs =>
    match operatorOf? c.operator with
    | none => .error (.unsupportedOperator (CompileError.written c.operator))
    | some o => attributeClauses path (addTest path clauses o c.value) cs

def groupClauses : Entries (List Condition) → Except CompileError (List Clause)
  | [] => .ok []
  | (path, cs) :: rest => do
    let here ← attributeClauses path [] cs
    let others ← groupClauses rest
    return here ++ others

/-- The query of one group; an empty group has none. -/
def compileGroup (cs : List Condition) : Except CompileError (Option Query) := do
  let clauses ← groupClauses (byAttribute cs)
  return Query.combine .must (clauses.map .clause)

/-- The queries of all groups that have one. -/
def compileGroups : FilterExpression → Except CompileError (List Query)
  | [] => .ok []
  | g :: gs => do
    let here ← compileGroup g
    let others ← compileGroups gs
    return here.toList ++ others

/-- The query of a filter; without groups that say something there is none. -/
def compile (e : FilterExpression) : Except CompileError (Option Query) := do
  let queries ← compileGroups e
  return Query.combine .should queries

end Filter
end SearchSource
