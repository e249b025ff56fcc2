import SearchSource.Value
import SearchSource.Number.Shortest
import SearchSource.Text.Quoted

/-! Values written as JSON on one line, a blank after every comma and colon. -/
namespace SearchSource.Json
open SearchSource.Number SearchSource.Text

/-- What a writer may choose. -/
structure Style where
  /-- Escape whatever is not printable ASCII. -/
  asciiOnly : Bool
  /-- The text that stands for a value JSON does not know. -/
  fallback : Value → String

/-- Names of the doubles that JSON has no numeral for. -/
def numberSpelling : Spelling := ⟨"NaN", "Infinity", "-Infinity"⟩

def unitEscape (n : Nat) : List Char :=
  if n < 0x10000 then '\\' :: 'u' :: hex 4 n
  else
    '\\' :: 'u' :: hex 4 (0xd800 + (n - 0x10000) / 0x400) ++
      '\\' :: 'u' :: hex 4 (0xdc00 + (n - 0x10000) % 0x400)

def escapeChar (asciiOnly : Bool) (c : Char) : List Char :=
  if c = '"' ∨ c = '\\' then ['\\', c]
  else if c = '\n' then ['\\', 'n']
  else if c = '\r' then ['\\', 'r']
  else if c = '\t' then ['\\', 't']
  else if c = '\x08' then ['\\', 'b']
  else if c = '\x0c' then ['\\', 'f']
  else if c.toNat < 0x20 ∨ (asciiOnly ∧ 0x7f ≤ c.toNat) then unitEscape c.toNat
  else [c]

def textChars (asciiOnly : Bool) (s : String) : List Char :=
  '"' :: s.toList.flatMap (escapeChar asciiOnly) ++ ['"']

/-- A key is a text; numbers and truth values become one. -/
def keyText? : Value → Option String
  | .text s => some s
  | .constant c => some c.word
  | .null => some "null"
  | .bool b => some (if b then "true" else "false")
  | .int n => some (toString n)
  | .float x => some (numberSpelling.write x)
  | _ => none

/-- Whether an integer has no more digits than a numeral may have. -/
def fits (n : Int) : Bool := (Nat.toDigits 10 n.natAbs).length ≤ digitLimit

def keyFault? : Value → Option Fault
  | .int n => if fits n then none else some .badContent
  | k => if (keyText? k).isSome then none else some .wrongType

mutual

/-- Why a value cannot be written: its first key that is no text and becomes none, or integer that
is too long. -/
def fault? : Value → Option Fault
  | .int n => if fits n then none else some .badContent
  | .list vs => itemFault? vs
  | .tuple vs => itemFault? vs
  | .object es => entryFault? es
  | .keyed k v => (keyFault? k).or (fault? v)
  | _ => none

def itemFault? : List Value → Option Fault
  | [] => none
  | v :: vs => (fault? v).or (itemFault? vs)

def entryFault? : List (String × Value) → Option Fault
  | [] => none
  | (_, v) :: es => (fault? v).or (entryFault? es)

end

mutual

def chars (style : Style) : Value → List Char
  | .null => "null".toList
  | .bool b => (if b then "true" else "false").toList
  | .int n => (toString n).toList
  | .float x => (numberSpelling.write x).toList
  | .text s => textChars style.asciiOnly s
  | .constant c => textChars style.asciiOnly c.word
  | .list vs => '[' :: itemChars style vs ++ [']']
  | .tuple vs => '[' :: itemChars style vs ++ [']']
  | .object es => '\x7b' :: entryChars style es ++ ['\x7d']
  | .keyed k v =>
    '\x7b' :: textChars style.asciiOnly ((keyText? k).getD "") ++ ':' :: ' ' ::
      chars style v ++ ['\x7d']
  | v => textChars style.asciiOnly (style.fallback v)

def itemChars (style : Style) : List Value → List Char
  | [] => []
  | [v] => chars style v
  | v :: vs => chars style v ++ ',' :: ' ' :: itemChars style vs

def entryChars (style : Style) : List (String × Value) → List Char
  | [] => []
  | [(k, v)] => textChars style.asciiOnly k ++ ':' :: ' ' :: chars style v
  | (k, v) :: es =>
    textChars style.asciiOnly k ++ ':' :: ' ' :: chars style v ++ ',' :: ' ' :: entryChars style es

end

def write (style : Style) (v : Value) : String := String.ofList (chars style v)

end SearchSource.Json
