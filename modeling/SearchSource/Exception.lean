import SearchSource.Value.Literal
import SearchSource.Text.Separated

/-! Exceptions of other parties: the class, the arguments that are kept, and what is said. -/
namespace SearchSource

/-- An exception; a fatal one is not meant to be caught. -/
structure Exception where
  name : String
  args : List Value
  message : String
  fatal : Bool

namespace Exception

/-- The last part of a name with points in it. -/
def shortName (name : String) : String := ((Text.splitAt '.' name).getLast?).getD name

def literal (e : Exception) : String :=
  shortName e.name ++ "(" ++ ", ".intercalate (Value.literals e.args) ++ ")"

end Exception
end SearchSource
