import SearchSource.Number.Numeral

/-! Decimal numbers that keep the places they are written with, and their arithmetic. -/
namespace SearchSource.Number
open SearchSource.Text

/-- A decimal number, an infinity, or no number, with a diagnosis; the last may signal, and then
every operation on it fails. -/
inductive Decimal
  | finite (s : Scientific)
  | infinite (negative : Bool)
  | undefined (negative signalling : Bool) (diagnosis : Nat)
deriving DecidableEq, Repr

inductive Signal
  | undefinedResult
  | tooLarge
deriving DecidableEq, Repr

namespace Scientific

/-- The place of the first digit, counted in powers of ten. -/
def lead (s : Scientific) : Int := (Nat.toDigits 10 s.digits).length + s.exponent - 1

/-- Results are kept to this many digits. -/
def precision : Nat := 28

/-- The nearest number of at most `precision` digits; of two equally near the one with the even last
digit. -/
def rounded (s : Scientific) : Scientific :=
  let excess := (Nat.toDigits 10 s.digits).length - precision
  if excess = 0 then s
  else
    let unit := Nat.pow 10 excess
    let below := s.digits / unit
    let gap := 2 * (s.digits % unit)
    let kept := if gap < unit ∨ (gap = unit ∧ below % 2 = 0) then below else below + 1
    if kept = Nat.pow 10 precision then
      ⟨s.negative, Nat.pow 10 (precision - 1), s.exponent + excess + 1⟩
    else ⟨s.negative, kept, s.exponent + excess⟩

/-- Places after which a number no longer shows in a rounded sum except by its sign. -/
def sightPlaces : Nat := 60

/-- One less. Where one of the two is far below the other, a smallest step in its place rounds the
same. -/
def minusOne (s : Scientific) : Scientific :=
  let step (n : Nat) : Nat := if s.negative then n + 1 else n - 1
  if s.digits ≠ 0 ∧ (sightPlaces : Int) < s.exponent then
    rounded ⟨s.negative, step (s.digits * Nat.pow 10 sightPlaces), s.exponent - sightPlaces⟩
  else if s.digits ≠ 0 ∧ (Nat.toDigits 10 s.digits).length + s.exponent < -(sightPlaces : Int) then
    rounded ⟨true, step (Nat.pow 10 sightPlaces), -sightPlaces⟩
  else
    let place := min s.exponent 0
    let size : Int := s.digits * Nat.pow 10 (s.exponent - place).natAbs
    let difference := (if s.negative then -size else size) - Nat.pow 10 place.natAbs
    rounded ⟨difference < 0, difference.natAbs, place⟩

def times (s : Scientific) (n : Int) : Scientific :=
  rounded ⟨s.negative != decide (n < 0), s.digits * n.natAbs, s.exponent⟩

/-- All digits are written, with an exponent if the point would stand right of them or more than six
places left of the first one. -/
def text (s : Scientific) : String :=
  let ds := Nat.toDigits 10 s.digits
  let place : Int := ds.length + s.exponent
  let split (whole : Nat) : List Char :=
    ds.take whole ++ (if ds.length ≤ whole then [] else '.' :: ds.drop whole)
  let size :=
    if 0 < s.exponent ∨ place ≤ -6 then
      let e := place - 1
      split 1 ++ 'E' :: (if e < 0 then '-' else '+') :: Nat.toDigits 10 e.natAbs
    else if place ≤ 0 then '0' :: '.' :: (List.replicate place.natAbs '0' ++ ds)
    else split place.natAbs
  String.ofList (if s.negative then '-' :: size else size)

end Scientific

namespace Decimal

def text : Decimal → String
  | finite s => s.text
  | infinite negative => if negative then "-Infinity" else "Infinity"
  | undefined negative signalling diagnosis =>
    (if negative then "-" else "") ++ (if signalling then "sNaN" else "NaN") ++
      (if diagnosis = 0 then "" else toString diagnosis)

def isNonzero : Decimal → Bool
  | finite s => s.digits ≠ 0
  | infinite _ => true
  | undefined _ _ _ => true

def isSignalling : Decimal → Bool
  | undefined _ signalling _ => signalling
  | _ => false

def toExact? : Decimal → Option Exact
  | finite s => some (.finite s.normal)
  | infinite negative => some (.infinite negative)
  | undefined _ _ _ => none

def largestExponent : Int := 999999

def ofResult (s : Scientific) : Except Signal Decimal :=
  if s.digits ≠ 0 ∧ largestExponent < s.lead then .error .tooLarge else .ok (.finite s)

/-- What is no number stays what it is, with as much of its diagnosis as fits. -/
def passUndefined (negative signalling : Bool) (diagnosis : Nat) : Except Signal Decimal :=
  if signalling then .error .undefinedResult
  else .ok (.undefined negative false (diagnosis % Nat.pow 10 Scientific.precision))

def minusOne : Decimal → Except Signal Decimal
  | finite s => ofResult s.minusOne
  | infinite negative => .ok (.infinite negative)
  | undefined negative signalling diagnosis => passUndefined negative signalling diagnosis

/-- The product with an integer; an infinity has none with zero. -/
def times (n : Int) : Decimal → Except Signal Decimal
  | finite s => ofResult (s.times n)
  | infinite negative =>
    if n = 0 then .error .undefinedResult else .ok (.infinite (negative != decide (n < 0)))
  | undefined negative signalling diagnosis => passUndefined negative signalling diagnosis

/-- Whether a decimal is above zero; what is no number cannot be compared. -/
def isPositive : Decimal → Except Signal Bool
  | finite s => .ok (!s.negative && s.digits ≠ 0)
  | infinite negative => .ok !negative
  | undefined _ _ _ => .error .undefinedResult

end Decimal
end SearchSource.Number
