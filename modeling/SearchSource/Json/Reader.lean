import SearchSource.Value

/-! Reading one JSON value from a text, with the place and kind of the first mistake. -/
namespace SearchSource.Json
open SearchSource.Number SearchSource.Text

inductive Mistake
  | valueExpected
  | nameExpected
  | colonExpected
  | commaExpected
  | textAfterValue
  | textNotClosed
  | controlCharacter
  | unknownEscape
  | badUnitEscape
  | byteOrderMark
  /-- An integer of this many digits is not read. -/
  | tooManyDigits (count : Nat)
deriving DecidableEq, Repr

/-- A mistake and the number of characters before it. -/
structure Defect where
  mistake : Mistake
  offset : Nat
deriving DecidableEq, Repr

/-- The characters still to be read and the number of those before them. -/
structure Cursor where
  rest : List Char
  offset : Nat
deriving DecidableEq, Repr

def Cursor.advance (c : Cursor) (n : Nat) : Cursor := ⟨c.rest.drop n, c.offset + n⟩

def isSpace (c : Char) : Bool := c = ' ' || c = '\t' || c = '\n' || c = '\r'

def Cursor.skipSpace (c : Cursor) : Cursor := c.advance (c.rest.takeWhile isSpace).length

def hexDigit? (c : Char) : Option Nat :=
  if '0' ≤ c ∧ c ≤ '9' then some (c.toNat - '0'.toNat)
  else if 'a' ≤ c ∧ c ≤ 'f' then some (c.toNat - 'a'.toNat + 10)
  else if 'A' ≤ c ∧ c ≤ 'F' then some (c.toNat - 'A'.toNat + 10)
  else none

/-- The unit in the first four characters; a fifth one has to follow. -/
def readUnit? : List Char → Option (Nat × List Char)
  | a :: b :: c :: d :: e :: rest => do
    let a ← hexDigit? a
    let b ← hexDigit? b
    let c ← hexDigit? c
    let d ← hexDigit? d
    return (((a * 16 + b) * 16 + c) * 16 + d, e :: rest)
  | _ => none

/-- A unit that is half of a pair stands for no character. -/
def unitChar (n : Nat) : Char := if 0xd800 ≤ n ∧ n < 0xe000 then '\ufffd' else Char.ofNat n

def isHighHalf (n : Nat) : Bool := 0xd800 ≤ n && n < 0xdc00

def isLowHalf (n : Nat) : Bool := 0xdc00 ≤ n && n < 0xe000

def joinHalves (high low : Nat) : Char :=
  Char.ofNat (0x10000 + (high - 0xd800) * 0x400 + (low - 0xdc00))

def escaped? : Char → Option Char
  | '"' => some '"'
  | '\\' => some '\\'
  | '/' => some '/'
  | 'b' => some '\x08'
  | 'f' => some '\x0c'
  | 'n' => some '\n'
  | 'r' => some '\r'
  | 't' => some '\t'
  | _ => none

/-- The character of a unit escape after its `u`, and how many characters that took. A high half
joins a low half that follows at once. -/
def readUnitEscape (c : Cursor) : Except Defect (Char × Nat) :=
  match readUnit? c.rest with
  | none => .error ⟨.badUnitEscape, c.offset - 1⟩
  | some (high, rest) =>
    match rest with
    | '\\' :: 'u' :: more =>
      if isHighHalf high ∧ 6 < rest.length then
        match readUnit? more with
        | none => .error ⟨.badUnitEscape, c.offset + 5⟩
        | some (low, _) =>
          if isLowHalf low then .ok (joinHalves high low, 10) else .ok (unitChar high, 4)
      else .ok (unitChar high, 4)
    | _ => .ok (unitChar high, 4)

/-- The characters of a text that began at `start`, up to its closing quote. Every round reads a
character at least, so the length of the rest is enough `fuel`. -/
def readChars (start : Nat) : Nat → List Char → Cursor → Except Defect (String × Cursor)
  | 0, _, _ => .error ⟨.textNotClosed, start⟩
  | fuel + 1, read, c =>
    match c.rest with
    | [] => .error ⟨.textNotClosed, start⟩
    | '"' :: _ => .ok (String.ofList read.reverse, c.advance 1)
    | ['\\'] => .error ⟨.textNotClosed, start⟩
    | '\\' :: 'u' :: _ => do
      let (x, n) ← readUnitEscape (c.advance 2)
      readChars start fuel (x :: read) (c.advance (2 + n))
    | '\\' :: e :: _ =>
      match escaped? e with
      | some x => readChars start fuel (x :: read) (c.advance 2)
      | none => .error ⟨.unknownEscape, c.offset⟩
    | x :: _ =>
      if x.toNat < 0x20 then .error ⟨.controlCharacter, c.offset⟩
      else readChars start fuel (x :: read) (c.advance 1)

def readText (c : Cursor) : Except Defect (String × Cursor) :=
  readChars (c.offset - 1) (c.rest.length + 1) [] c

def digitsAhead (cs : List Char) : List Nat :=
  (cs.takeWhile fun c => (asciiDigit? c).isSome).filterMap asciiDigit?

/-- How many characters the integer part takes, or none if it is not there. -/
def wholeLength (cs : List Char) : Option Nat :=
  match cs with
  | '0' :: _ => some 1
  | cs => if (digitsAhead cs).isEmpty then none else some (digitsAhead cs).length

def fractionAhead : List Char → List Nat
  | '.' :: cs => digitsAhead cs
  | _ => []

/-- The value of an exponent and the characters it takes; an incomplete one is not read. -/
def exponentAhead : List Char → Option (Int × Nat)
  | e :: cs =>
    if e = 'e' ∨ e = 'E' then
      let (negative, rest) := signed cs
      let ds := digitsAhead rest
      if ds.isEmpty then none
      else
        let size : Int := ofDigits ds
        some (if negative then -size else size, 1 + (cs.length - rest.length) + ds.length)
    else none
  | [] => none

/-- A number: an integer, or a double if it has a fraction or an exponent. -/
def readNumber (start : Cursor) : Except Defect (Value × Cursor) :=
  let negative := start.rest.head? = some '-'
  let c := if negative then start.advance 1 else start
  match wholeLength c.rest with
  | none => .error ⟨.valueExpected, start.offset⟩
  | some n =>
    let whole := (c.rest.take n).filterMap asciiDigit?
    let c := c.advance n
    let fraction := fractionAhead c.rest
    let c := if fraction.isEmpty then c else c.advance (fraction.length + 1)
    match exponentAhead c.rest with
    | some (e, used) =>
      let s := Scientific.mk negative (ofDigits (whole ++ fraction)) (e - fraction.length)
      .ok (.float s.toFloat, c.advance used)
    | none =>
      if ¬fraction.isEmpty then
        .ok (.float (Scientific.mk negative (ofDigits (whole ++ fraction))
          (-fraction.length)).toFloat, c)
      else if digitLimit < whole.length then .error ⟨.tooManyDigits whole.length, start.offset⟩
      else
        let size : Int := ofDigits whole
        .ok (.int (if negative then -size else size), c)

def words : List (List Char × Value) :=
  [("null".toList, .null), ("true".toList, .bool true), ("false".toList, .bool false),
    ("NaN".toList, .float notANumber), ("Infinity".toList, .float infinity),
    ("-Infinity".toList, .float (-infinity))]

def readWord? (c : Cursor) : Option (Value × Cursor) :=
  (words.find? fun w => w.1.isPrefixOf c.rest).map fun w => (w.2, c.advance w.1.length)

mutual

/-- One value. A value and the list or object it begins take two steps for a character at least, so
twice the length of the text is enough `fuel`. -/
def readValue : Nat → Cursor → Except Defect (Value × Cursor)
  | 0, c => .error ⟨.valueExpected, c.offset⟩
  | fuel + 1, c =>
    match c.rest with
    | '"' :: _ => do
      let (s, c) ← readText (c.advance 1)
      return (.text s, c)
    | '\x7b' :: _ =>
      let c := (c.advance 1).skipSpace
      match c.rest with
      | '\x7d' :: _ => .ok (.object [], c.advance 1)
      | _ => readEntries fuel [] c
    | '[' :: _ =>
      let c := (c.advance 1).skipSpace
      match c.rest with
      | ']' :: _ => .ok (.list [], c.advance 1)
      | _ => readItems fuel [] c
    | _ => (readWord? c).elim (readNumber c) .ok

/-- The items of a list after `read`, latest first. -/
def readItems : Nat → List Value → Cursor → Except Defect (Value × Cursor)
  | 0, _, c => .error ⟨.valueExpected, c.offset⟩
  | fuel + 1, read, c => do
    let (v, c) ← readValue fuel c
    let c := c.skipSpace
    match c.rest with
    | ']' :: _ => .ok (.list (v :: read).reverse, c.advance 1)
    | ',' :: _ => readItems fuel (v :: read) (c.advance 1).skipSpace
    | _ => .error ⟨.commaExpected, c.offset⟩

def readEntries : Nat → Entries Value → Cursor → Except Defect (Value × Cursor)
  | 0, _, c => .error ⟨.valueExpected, c.offset⟩
  | fuel + 1, read, c =>
    match c.rest with
    | '"' :: _ => do
      let (key, c) ← readText (c.advance 1)
      let c := c.skipSpace
      match c.rest with
      | ':' :: _ => do
        let (v, c) ← readValue fuel (c.advance 1).skipSpace
        let c := c.skipSpace
        match c.rest with
        | '\x7d' :: _ => .ok (.object (Entries.put key v read), c.advance 1)
        | ',' :: _ => readEntries fuel (Entries.put key v read) (c.advance 1).skipSpace
        | _ => .error ⟨.commaExpected, c.offset⟩
      | _ => .error ⟨.colonExpected, c.offset⟩
    | _ => .error ⟨.nameExpected, c.offset⟩

end

def readAll (cs : List Char) : Except Defect Value := do
  let (v, c) ← readValue (2 * cs.length + 2) (Cursor.mk cs 0).skipSpace
  let c := c.skipSpace
  if c.rest.isEmpty then return v else .error ⟨.textAfterValue, c.offset⟩

/-- The mark that may open a byte stream has no place in a text. -/
def byteOrderMark : Char := '\ufeff'

def read (s : String) : Except Defect Value :=
  if s.toList.head? = some byteOrderMark then .error ⟨.byteOrderMark, 0⟩ else readAll s.toList

def dropMark (cs : List Char) : List Char :=
  if cs.head? = some byteOrderMark then cs.drop 1 else cs

/-- The line of an offset and the place in it, both from one. -/
def lineAndColumn (cs : List Char) (offset : Nat) : Nat × Nat :=
  let before := cs.take offset
  (before.count '\n' + 1, (before.reverse.takeWhile (· ≠ '\n')).length + 1)

def Mistake.wording : Mistake → String
  | .valueExpected => "Expecting value"
  | .nameExpected => "Expecting property name enclosed in double quotes"
  | .colonExpected => "Expecting ':' delimiter"
  | .commaExpected => "Expecting ',' delimiter"
  | .textAfterValue => "Extra data"
  | .textNotClosed => "Unterminated string starting at"
  | .controlCharacter => "Invalid control character at"
  | .unknownEscape => "Invalid \\escape"
  | .badUnitEscape => "Invalid \\uXXXX escape"
  | .byteOrderMark => "Unexpected UTF-8 BOM (decode using utf-8-sig)"
  | .tooManyDigits count =>
    "Exceeds the limit (" ++ toString digitLimit ++
      " digits) for integer string conversion: value has " ++
      toString count ++ " digits; use sys.set_int_max_str_digits() to increase the limit"

/-- A defect of some characters in words; all but an overlong integer are located. -/
def Defect.message (cs : List Char) (d : Defect) : String :=
  match d.mistake with
  | .tooManyDigits _ => d.mistake.wording
  | m =>
    let (line, column) := lineAndColumn cs d.offset
    m.wording ++ ": line " ++ toString line ++ " column " ++ toString column ++
      " (char " ++ toString d.offset ++ ")"

end SearchSource.Json
