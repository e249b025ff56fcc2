import SearchSource.Value
import SearchSource.Number.Shortest
import SearchSource.Text.Quoted

/-! The texts of values: a literal that shows the type, and a plain display. -/
namespace SearchSource.Value
open SearchSource.Number SearchSource.Text

def boolWord (b : Bool) : String := if b then "True" else "False"

mutual

def literal : Value → String
  | .null => "None"
  | .bool b => boolWord b
  | .int n => toString n
  | .float x => floatText x
  | .text s => quoted s
  | .decimal d => "Decimal(" ++ quoted d.text ++ ")"
  | .date d => d.literal
  | .moment m => m.literal
  | .bytes s => quotedBytes s
  | .constant c => "<" ++ c.qualifiedName ++ ": " ++ quoted c.word ++ ">"
  | .list vs => "[" ++ ", ".intercalate (literals vs) ++ "]"
  | .tuple [v] => "(" ++ literal v ++ ",)"
  | .tuple vs => "(" ++ ", ".intercalate (literals vs) ++ ")"
  | .object es => "\x7b" ++ ", ".intercalate (entryLiterals es) ++ "\x7d"
  | .keyed k v => "\x7b" ++ literal k ++ ": " ++ literal v ++ "\x7d"

def literals : List Value → List String
  | [] => []
  | v :: vs => literal v :: literals vs

def entryLiterals : List (String × Value) → List String
  | [] => []
  | (k, v) :: es => (quoted k ++ ": " ++ literal v) :: entryLiterals es

end

/-- A value as a part of a sentence: texts, decimals, dates and constants go without their literal
marks. -/
def display : Value → String
  | .text s => s
  | .decimal d => d.text
  | .date d => d.text
  | .moment m => m.text " "
  | .constant c => c.qualifiedName
  | v => v.literal

end SearchSource.Value
