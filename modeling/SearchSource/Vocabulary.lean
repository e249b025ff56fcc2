/-! The closed vocabularies of a search request: filter operators and aggregate functions. -/
namespace SearchSource

/-- How a filter condition compares an attribute with a value. -/
inductive FilterOperator
  | equal
  | greater
  | greaterOrEqual
  | less
  | lessOrEqual
deriving DecidableEq, Repr

namespace FilterOperator

def all : List FilterOperator := [equal, greater, greaterOrEqual, less, lessOrEqual]

def word : FilterOperator → String
  | equal => "equal"
  | greater => "greater"
  | greaterOrEqual => "greaterOrEqual"
  | less => "less"
  | lessOrEqual => "lessOrEqual"

def label : FilterOperator → String
  | equal => "EQUAL"
  | greater => "GREATER"
  | greaterOrEqual => "GREATER_OR_EQUAL"
  | less => "LESS"
  | lessOrEqual => "LESS_OR_EQUAL"

def ofWord? (s : String) : Option FilterOperator := all.find? (·.word = s)

theorem mem_all (o : FilterOperator) : o ∈ all := by cases o <;> simp [all]

@[simp] theorem ofWord?_word (o : FilterOperator) : ofWord? o.word = some o := by
  cases o <;> rfl

end FilterOperator

/-- What an aggregate computes over its field. -/
inductive AggregateFunction
  | count
  | values
  | min
  | max
deriving DecidableEq, Repr

namespace AggregateFunction

def all : List AggregateFunction := [count, values, min, max]

def word : AggregateFunction → String
  | count => "count"
  | values => "values"
  | min => "min"
  | max => "max"

def label : AggregateFunction → String
  | count => "COUNT"
  | values => "VALUES"
  | min => "MIN"
  | max => "MAX"

def ofWord? (s : String) : Option AggregateFunction := all.find? (·.word = s)

/-- Functions that group documents into buckets; the others compute one metric. -/
def isBucketing : AggregateFunction → Bool
  | count | values => true
  | min | max => false

theorem mem_all (f : AggregateFunction) : f ∈ all := by cases f <;> simp [all]

@[simp] theorem ofWord?_word (f : AggregateFunction) : ofWord? f.word = some f := by
  cases f <;> rfl

end AggregateFunction

/-- A member of one of the vocabularies, used as a value. -/
inductive Constant
  | operator (o : FilterOperator)
  | function (f : AggregateFunction)
deriving DecidableEq, Repr

namespace Constant

def word : Constant → String
  | operator o => o.word
  | function f => f.word

def vocabulary : Constant → String
  | operator _ => "FilterOperator"
  | function _ => "AggregateFunction"

def label : Constant → String
  | operator o => o.label
  | function f => f.label

def qualifiedName (c : Constant) : String := c.vocabulary ++ "." ++ c.label

end Constant
end SearchSource
