import SearchSource.Vocabulary
import SearchSource.Calendar
import SearchSource.Entries
import SearchSource.Number.Decimal
import SearchSource.Number.Double

/-! The values that requests, documents and responses are made of. -/
namespace SearchSource
open SearchSource.Number

inductive Value
  | null
  | bool (b : Bool)
  | int (n : Int)
  | float (x : Float)
  | text (s : String)
  | decimal (d : Decimal)
  | date (d : Date)
  | moment (m : Moment)
  /-- The bytes that spell a text in UTF-8. -/
  | bytes (spelled : String)
  | constant (c : Constant)
  | list (items : List Value)
  | tuple (items : List Value)
  | object (entries : List (String × Value))
  /-- A mapping with one entry whose key is not a text. -/
  | keyed (key value : Value)
deriving Inhabited

/-- The way in which a value can be unfit for an operation. -/
inductive Fault
  /-- Keys are looked up in something that has none. -/
  | noKeys
  /-- The operation is not defined on values of this type. -/
  | wrongType
  /-- The type is right and the content is not. -/
  | badContent
  /-- A number is too large for a double, or infinite where an integer is needed. -/
  | outOfRange
  /-- Decimal arithmetic does not come to a result. -/
  | stopped (s : Signal)
deriving DecidableEq, Repr

/-- Decimal arithmetic that is stopped is a fault. -/
def Fault.ofSignal {α : Type} : Except Signal α → Except Fault α
  | .ok a => .ok a
  | .error s => .error (.stopped s)

namespace Value

def typeName : Value → String
  | null => "NoneType"
  | bool _ => "bool"
  | int _ => "int"
  | float _ => "float"
  | text _ => "str"
  | decimal _ => "Decimal"
  | date _ => "date"
  | moment _ => "datetime"
  | bytes _ => "bytes"
  | constant c => c.vocabulary
  | list _ => "list"
  | tuple _ => "tuple"
  | object _ => "dict"
  | keyed _ _ => "dict"

/-- A type's name together with the module it lives in, where that is not the core. -/
def fullTypeName (v : Value) : String :=
  match v with
  | decimal _ => "decimal." ++ v.typeName
  | date _ | moment _ => "datetime." ++ v.typeName
  | _ => v.typeName

/-- Texts, among them the constants. -/
def asText? : Value → Option String
  | text s => some s
  | constant c => some c.word
  | _ => none

def asSequence? : Value → Option (List Value)
  | list vs => some vs
  | tuple vs => some vs
  | _ => none

def asObject? : Value → Option (Entries Value)
  | object es => some es
  | _ => none

/-- Empty and zero values, and `null`, do not hold. -/
def holds : Value → Bool
  | null => false
  | bool b => b
  | int n => n ≠ 0
  | float x => !(x == 0.0)
  | text s => s ≠ ""
  | decimal d => d.isNonzero
  | date _ => true
  | moment _ => true
  | bytes s => s ≠ ""
  | constant _ => true
  | list vs => !vs.isEmpty
  | tuple vs => !vs.isEmpty
  | object es => !es.isEmpty
  | keyed _ _ => true

def toExact? : Value → Option Exact
  | bool b => some (.ofInt (if b then 1 else 0))
  | int n => some (.ofInt n)
  | float x => exactOfFloat? x
  | decimal d => d.toExact?
  | _ => none

/-- Whether a value is the same number as an integer; a signalling decimal cannot be compared. -/
def equalsInt (v : Value) (n : Int) : Except Fault Bool :=
  match v with
  | decimal d => if d.isSignalling then .error (.stopped .undefinedResult)
    else .ok (d.toExact? = some (.ofInt n))
  | v => .ok (v.toExact? = some (.ofInt n))

/-- The value under a key of a mapping; a missing key gives `null`. -/
def get (v : Value) (key : String) : Except Fault Value :=
  match v with
  | object es => .ok ((es.lookup key).getD .null)
  | keyed _ _ => .ok .null
  | _ => .error .noKeys

/-- What iteration over a value yields. -/
def elements : Value → Except Fault (List Value)
  | list vs => .ok vs
  | tuple vs => .ok vs
  | text s => .ok (s.toList.map fun c => text (String.ofList [c]))
  | constant c => .ok (c.word.toList.map fun c => text (String.ofList [c]))
  | bytes s => .ok (s.toUTF8.toList.map fun b => int b.toNat)
  | object es => .ok (es.map fun e => text e.1)
  | keyed k _ => .ok [k]
  | _ => .error .wrongType

mutual

/-- Whether a value can be a key: it has no list, no mapping and no signalling decimal in it. -/
def canBeKey : Value → Bool
  | decimal d => !d.isSignalling
  | list _ => false
  | object _ => false
  | keyed _ _ => false
  | tuple vs => allCanBeKeys vs
  | _ => true

def allCanBeKeys : List Value → Bool
  | [] => true
  | v :: vs => canBeKey v && allCanBeKeys vs

end

def toInt : Value → Except Fault Int
  | bool b => .ok (if b then 1 else 0)
  | int n => .ok n
  | float x => match dyadic? x with
    | some d => .ok d.truncate
    | none => .error (if x.isNaN then .badContent else .outOfRange)
  | text s => (integerOfText? s).elim (.error .badContent) .ok
  | constant c => (integerOfText? c.word).elim (.error .badContent) .ok
  | bytes s => (integerOfBytes? s).elim (.error .badContent) .ok
  | decimal (.finite s) => .ok s.truncate
  | decimal (.infinite _) => .error .outOfRange
  | decimal (.undefined _ _ _) => .error .badContent
  | _ => .error .wrongType

def toFloat : Value → Except Fault Float
  | bool b => .ok (if b then 1.0 else 0.0)
  | int n => (ofInt? n).elim (.error .outOfRange) .ok
  | float x => .ok x
  | text s => (realOfText? s).elim (.error .badContent) (.ok ·.toFloat)
  | constant c => (realOfText? c.word).elim (.error .badContent) (.ok ·.toFloat)
  | bytes s => (realOfBytes? s).elim (.error .badContent) (.ok ·.toFloat)
  | decimal (.finite s) => .ok s.toFloat
  | decimal (.infinite negative) => .ok (if negative then -infinity else infinity)
  | decimal (.undefined _ signalling _) => if signalling then .error .badContent else .ok notANumber
  | _ => .error .wrongType

end Value
end SearchSource
