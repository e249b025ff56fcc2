/-! Numbers in scientific form and the doubles nearest to them. -/
namespace SearchSource.Number

/-- The number `± digits · 10 ^ exponent`. -/
structure Scientific where
  negative : Bool
  digits : Nat
  exponent : Int
deriving DecidableEq, Repr

/-- What a real numeral says: a number, an infinity, or that there is no number. -/
inductive Numeral
  | finite (s : Scientific)
  | infinite (negative : Bool)
  | undefined
deriving DecidableEq, Repr

def infinity : Float := 1.0 / 0.0

def notANumber : Float := 0.0 / 0.0

/-- Every number of at least this many places before the point is beyond the doubles, and every
number with this many zeros after the point is below them. -/
def reach : Int := 400

/-- The nearest double; what is too large becomes infinite. -/
def Scientific.toFloat (s : Scientific) : Float :=
  let places : Int := (Nat.toDigits 10 s.digits).length + s.exponent
  let size :=
    if s.digits = 0 ∨ places < -reach then 0.0
    else if reach < places then infinity
    else Float.ofScientific s.digits (s.exponent < 0) s.exponent.natAbs
  if s.negative then -size else size

def Numeral.toFloat : Numeral → Float
  | .finite s => s.toFloat
  | .infinite negative => if negative then -infinity else infinity
  | .undefined => notANumber

def Scientific.truncate (s : Scientific) : Int :=
  let size : Nat :=
    if (Nat.toDigits 10 s.digits).length + s.exponent ≤ 0 then 0
    else if s.exponent < 0 then s.digits / Nat.pow 10 s.exponent.natAbs
    else s.digits * Nat.pow 10 s.exponent.natAbs
  if s.negative then -size else size

def Scientific.ofInt (n : Int) : Scientific := ⟨n < 0, n.natAbs, 0⟩

/-- The same number without zeros at the end of its digits; zero has no sign and no places. -/
def Scientific.normal (s : Scientific) : Scientific :=
  if s.digits = 0 then ⟨false, 0, 0⟩
  else
    let zeros := ((Nat.toDigits 10 s.digits).reverse.takeWhile (· = '0')).length
    ⟨s.negative, s.digits / Nat.pow 10 zeros, s.exponent + zeros⟩

/-- A number without any rounding, finite ones in normal form. -/
inductive Exact
  | finite (s : Scientific)
  | infinite (negative : Bool)
deriving DecidableEq, Repr

def Exact.ofInt (n : Int) : Exact := .finite (Scientific.ofInt n).normal

/-- The nearest double to an integer, if one is near enough. -/
def ofInt? (n : Int) : Option Float :=
  let x := (Scientific.ofInt n).toFloat
  if x.isInf then none else some x

end SearchSource.Number
