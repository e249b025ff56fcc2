/-! Sets of characters given by the code points at which membership changes. -/
namespace SearchSource.Text

/-- Rising code points; each one starts or ends a block of members. -/
abbrev CharSet := List Nat

/-- Whether an odd number of boundaries lies at or below the code point. -/
def CharSet.has : CharSet → Nat → Bool
  | [], _ => false
  | b :: bs, n => if n < b then false else !(has bs n)

end SearchSource.Text
