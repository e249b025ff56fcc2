import SearchSource.Number.Scientific
import SearchSource.Text.Blank
import SearchSource.Text.Digit

/-! Reading integers and reals from a text. -/
namespace SearchSource.Number
open SearchSource.Text

/-- Digits with at most one low line between two of them; the list is not empty. -/
def digitRun? (digit : Char → Option Nat) : List Char → Option (List Nat)
  | [] => none
  | [c] => (digit c).map ([·])
  | c :: '_' :: cs => do
    let d ← digit c
    let ds ← digitRun? digit cs
    return d :: ds
  | c :: cs => do
    let d ← digit c
    let ds ← digitRun? digit cs
    return d :: ds

def ofDigits (ds : List Nat) : Nat := ds.foldl (fun n d => 10 * n + d) 0

def signed : List Char → Bool × List Char
  | '-' :: cs => (true, cs)
  | '+' :: cs => (false, cs)
  | cs => (false, cs)

/-- Integers of more digits than this are neither read nor written. -/
def digitLimit : Nat := 4300

/-- An integer numeral: a sign and a run of digits, with blanks around. -/
def readInteger? (blank : Char → Bool) (digit : Char → Option Nat) (cs : List Char) :
    Option Int := do
  let (negative, rest) := signed (trim blank cs)
  let ds ← digitRun? digit rest
  if digitLimit < ds.length then none
  else return if negative then -(ofDigits ds : Int) else ofDigits ds

def sideRun? (digit : Char → Option Nat) (cs : List Char) : Option (List Nat) :=
  if cs.isEmpty then some [] else digitRun? digit cs

/-- Digits around a point, at least one of them. -/
def mantissa? (digit : Char → Option Nat) (cs : List Char) : Option (Nat × Nat) := do
  let (whole, fraction) := cs.span (· ≠ '.')
  let ws ← sideRun? digit whole
  let fs ← sideRun? digit (fraction.drop 1)
  if ws.isEmpty ∧ fs.isEmpty then none
  else return (ofDigits (ws ++ fs), fs.length)

def exponent? (digit : Char → Option Nat) : List Char → Option Int
  | [] => some 0
  | _ :: cs => do
    let (negative, rest) := signed cs
    let ds ← digitRun? digit rest
    return if negative then -(ofDigits ds : Int) else ofDigits ds

def namedReal? (negative : Bool) (cs : List Char) : Option Numeral :=
  let name := String.ofList (cs.map Char.toLower)
  if name = "inf" ∨ name = "infinity" then some (.infinite negative)
  else if name = "nan" then some .undefined
  else none

/-- A real numeral: a sign and a name, or a sign, digits around a point and an exponent, with blanks
around. -/
def readReal? (blank : Char → Bool) (digit : Char → Option Nat) (cs : List Char) : Option Numeral :=
  let (negative, rest) := signed (trim blank cs)
  match namedReal? negative rest with
  | some r => some r
  | none => do
    let (front, power) := rest.span fun c => c ≠ 'e' ∧ c ≠ 'E'
    let (digits, places) ← mantissa? digit front
    let e ← exponent? digit power
    return .finite ⟨negative, digits, e - places⟩

/-- Texts use the blanks and digits of every script. -/
def integerOfText? (s : String) : Option Int := readInteger? isNumeralBlank digit? s.toList

def realOfText? (s : String) : Option Numeral := readReal? isNumeralBlank digit? s.toList

def isAsciiBlank (c : Char) : Bool := c.toNat < 0x80 && isNumeralBlank c

/-- Bytes use those of ASCII. -/
def integerOfBytes? (s : String) : Option Int := readInteger? isAsciiBlank asciiDigit? s.toList

def realOfBytes? (s : String) : Option Numeral := readReal? isAsciiBlank asciiDigit? s.toList

end SearchSource.Number
