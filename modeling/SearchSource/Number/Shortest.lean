import SearchSource.Number.Double

/-! The decimal text of a double: the fewest digits that read back as it. -/
namespace SearchSource.Number

/-- A point of a decimal grid, `digits · 10 ^ exponent`. -/
structure GridPoint where
  digits : Nat
  exponent : Int
deriving DecidableEq, Repr

def GridPoint.toFloat (p : GridPoint) : Float := (Scientific.mk false p.digits p.exponent).toFloat

/-- The place `p` with `10 ^ (p - 1) ≤ num / den < 10 ^ p`, for a positive ratio. -/
def leadingPlace (num den : Nat) : Int :=
  if den ≤ num then (Nat.toDigits 10 (num / den)).length
  else
    let k := (Nat.toDigits 10 (den / num)).length
    if den ≤ num * Nat.pow 10 (k - 1) then 2 - k else 1 - k

/-- The two neighbours of `num / den` on the grid of step `10 ^ exponent`, the nearer one first; of
two equally near the one with the even last digit. -/
def neighbours (num den : Nat) (exponent : Int) : List GridPoint :=
  let (num, den) :=
    if exponent < 0 then (num * Nat.pow 10 exponent.natAbs, den)
    else (num, den * Nat.pow 10 exponent.natAbs)
  let below := num / den
  let gap := 2 * (num % den)
  if gap < den ∨ (gap = den ∧ below % 2 = 0) then [⟨below, exponent⟩, ⟨below + 1, exponent⟩]
  else [⟨below + 1, exponent⟩, ⟨below, exponent⟩]

/-- Seventeen digits are enough for every double. -/
def mostDigits : Nat := 17

/-- The nearest point that reads back as `x` on the coarsest grid that has one. -/
def shortest (x : Float) (num den : Nat) : GridPoint :=
  let place := leadingPlace num den
  let points :=
    (List.range mostDigits).flatMap fun (n : Nat) => neighbours num den (place - (n + 1))
  (points.find? (·.toFloat == x)).getD ⟨num / den, 0⟩

def significant (n : Nat) : List Char :=
  ((Nat.toDigits 10 n).reverse.dropWhile (· = '0')).reverse

/-- A point is written with a decimal point when its first digit stands at most sixteen places
before it or four after it, otherwise with an exponent of at least two digits. -/
def GridPoint.text (p : GridPoint) : List Char :=
  let all := (Nat.toDigits 10 p.digits).length
  let ds := significant p.digits
  let place : Int := all + p.exponent
  if place ≤ -4 ∨ 16 < place then
    let e := place - 1
    let mantissa := match ds with
      | [] => ['0']
      | [d] => [d]
      | d :: rest => d :: '.' :: rest
    let power := Nat.toDigits 10 e.natAbs
    mantissa ++ 'e' :: (if e < 0 then '-' else '+') ::
      (List.replicate (2 - power.length) '0' ++ power)
  else if place ≤ 0 then '0' :: '.' :: (List.replicate place.natAbs '0' ++ ds)
  else
    let whole := place.natAbs
    let tail := ds.drop whole
    ds.take whole ++ List.replicate (whole - ds.length) '0' ++
      '.' :: (if tail.isEmpty then ['0'] else tail)

structure Spelling where
  undefined : String
  infinite : String
  negativeInfinite : String

def Spelling.write (names : Spelling) (x : Float) : String :=
  match dyadic? x with
  | none =>
    if x.isNaN then names.undefined else if x < 0 then names.negativeInfinite else names.infinite
  | some d =>
    let size := if d.significand = 0 then "0.0".toList
      else (shortest x.abs d.ratio.1 d.ratio.2).text
    String.ofList (if d.negative then '-' :: size else size)

def floatText : Float → String := Spelling.write ⟨"nan", "inf", "-inf"⟩

end SearchSource.Number
