import SearchSource.Number.Scientific

/-! The exact value of a double and its integer part. -/
namespace SearchSource.Number

/-- The number `± significand · 2 ^ exponent`. -/
structure Dyadic where
  negative : Bool
  significand : Nat
  exponent : Int
deriving DecidableEq, Repr

/-- The value that the bits of a double spell, if it is finite. -/
def dyadic? (x : Float) : Option Dyadic :=
  let bits : Nat := x.toBits.toNat
  let negative : Bool := bits / Nat.pow 2 63 = 1
  let exponent : Nat := bits / Nat.pow 2 52 % Nat.pow 2 11
  let fraction := bits % Nat.pow 2 52
  if exponent = Nat.pow 2 11 - 1 then none
  else if exponent = 0 then some ⟨negative, fraction, -1074⟩
  else some ⟨negative, Nat.pow 2 52 + fraction, exponent - 1075⟩

/-- Numerator and denominator of the size of the number. -/
def Dyadic.ratio (d : Dyadic) : Nat × Nat :=
  if d.exponent < 0 then (d.significand, Nat.pow 2 d.exponent.natAbs)
  else (d.significand * Nat.pow 2 d.exponent.natAbs, 1)

def Dyadic.truncate (d : Dyadic) : Int :=
  let size : Nat := d.ratio.1 / d.ratio.2
  if d.negative then -size else size

/-- A power of two below one is a power of five with as many decimal places. -/
def Dyadic.toScientific (d : Dyadic) : Scientific :=
  if d.exponent < 0 then ⟨d.negative, d.significand * Nat.pow 5 d.exponent.natAbs, d.exponent⟩
  else ⟨d.negative, d.significand * Nat.pow 2 d.exponent.natAbs, 0⟩

def exactOfFloat? (x : Float) : Option Exact :=
  match dyadic? x with
  | some d => some (.finite d.toScientific.normal)
  | none => if x.isNaN then none else some (.infinite (x < 0))

end SearchSource.Number
