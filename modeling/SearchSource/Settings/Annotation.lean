import SearchSource.Text.Separated

/-! Types of settings, as they are annotated. -/
namespace SearchSource

/-- An annotation: the text of one, or a type itself. -/
inductive Annotation
  | written (source : String)
  | plain (name : String)
  /-- A type with arguments goes by its own name. -/
  | generic (head : String)
  | union (members : List String)
  | optional (member : String)

namespace Annotation

/-- The alternative that says a setting may be missing. -/
def nothing : String := "None"

/-- The first alternative that is a type, without blanks; a text without any goes as it is. -/
def firstAlternative (source : String) : String :=
  (((Text.splitAt '|' source).map Text.strip).find? (· ≠ nothing)).getD source

def typeName : Annotation → String
  | written source => firstAlternative source
  | plain name => name
  | generic head => head
  | union members => firstAlternative (" | ".intercalate members)
  | optional _ => "Optional"

end Annotation
end SearchSource
