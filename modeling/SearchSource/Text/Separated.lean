import SearchSource.Text.Blank

/-! Lists written in one text with a separator. -/
namespace SearchSource.Text

/-- The pieces of a text around every `sep`; there is always one piece at least. -/
def pieces (sep : Char) : List Char → List (List Char)
  | [] => [[]]
  | c :: cs =>
    if c = sep then [] :: pieces sep cs
    else match pieces sep cs with
      | [] => [[c]]
      | p :: ps => (c :: p) :: ps

def splitAt (sep : Char) (s : String) : List String :=
  (pieces sep s.toList).map String.ofList

/-- A comma-separated list: items without blanks at their ends, blank items left out. -/
def commaList (s : String) : List String :=
  ((splitAt ',' s).map strip).filter (· ≠ "")

/-- What stands before and after the first `sep`. -/
def breakAt? (sep : Char) : List Char → Option (List Char × List Char)
  | [] => none
  | c :: cs =>
    if c = sep then some ([], cs)
    else (breakAt? sep cs).map fun p => (c :: p.1, p.2)

end SearchSource.Text
