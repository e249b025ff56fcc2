/-! Texts from bytes, in units of one, two or four bytes. -/
namespace SearchSource.Text

inductive Encoding
  | utf8
  | utf16 (bigEndian : Bool)
  | utf32 (bigEndian : Bool)
deriving DecidableEq, Repr

/-- Why bytes spell no text: what is wrong with which of them, from the first to the last. -/
structure EncodingDefect where
  encoding : Encoding
  bytes : List UInt8
  start : Nat
  reason : String

namespace Encoding

def name : Encoding → String
  | utf8 => "utf-8"
  | utf16 bigEndian => if bigEndian then "utf-16-be" else "utf-16-le"
  | utf32 bigEndian => if bigEndian then "utf-32-be" else "utf-32-le"

/-- A text that begins with two ASCII characters shows its units by the zeros among the first
bytes. -/
def detect : List UInt8 → Encoding
  | [a, b] => if a = 0 then utf16 true else if b = 0 then utf16 false else utf8
  | a :: b :: c :: d :: _ =>
    if a = 0 then (if b = 0 then utf32 true else utf16 true)
    else if b = 0 then (if c = 0 ∧ d = 0 then utf32 false else utf16 false)
    else utf8
  | _ => utf8

/-- The number that bytes are the base-256 digits of. -/
def unit (bigEndian : Bool) (bytes : List UInt8) : Nat :=
  (if bigEndian then bytes else bytes.reverse).foldl (fun n b => 256 * n + b.toNat) 0

/-- Units of two bytes each; a single byte may not be left. -/
def units16 (bigEndian : Bool) (start : Nat) : List UInt8 → Except EncodingDefect (List Nat)
  | [] => .ok []
  | [a] => .error ⟨utf16 bigEndian, [a], start, "truncated data"⟩
  | a :: b :: rest => do
    let others ← units16 bigEndian (start + 2) rest
    return unit bigEndian [a, b] :: others

/-- Characters of two-byte units; two halves make one, and half of a pair alone stands for none. -/
def join16 : List Nat → List Char
  | [] => []
  | [n] => [if 0xd800 ≤ n ∧ n < 0xe000 then '\ufffd' else Char.ofNat n]
  | high :: low :: rest =>
    if 0xd800 ≤ high ∧ high < 0xdc00 ∧ 0xdc00 ≤ low ∧ low < 0xe000 then
      Char.ofNat (0x10000 + (high - 0xd800) * 0x400 + (low - 0xdc00)) :: join16 rest
    else (if 0xd800 ≤ high ∧ high < 0xe000 then '\ufffd' else Char.ofNat high) ::
      join16 (low :: rest)

def chars32 (bigEndian : Bool) (start : Nat) : List UInt8 → Except EncodingDefect (List Char)
  | [] => .ok []
  | a :: b :: c :: d :: rest =>
    let n := unit bigEndian [a, b, c, d]
    if 0x110000 ≤ n then
      .error ⟨utf32 bigEndian, [a, b, c, d], start, "code point not in range(0x110000)"⟩
    else do
      let others ← chars32 bigEndian (start + 4) rest
      return (if 0xd800 ≤ n ∧ n < 0xe000 then '\ufffd' else Char.ofNat n) :: others
  | left => .error ⟨utf32 bigEndian, left, start, "truncated data"⟩

end Encoding

/-- What the first bytes of a text spell; a character that is cut shows as one that is unknown. -/
def firstBytes (limit : Nat) : List Char → List Char
  | [] => []
  | c :: cs =>
    if c.utf8Size ≤ limit then c :: firstBytes (limit - c.utf8Size) cs
    else if limit = 0 then [] else ['\ufffd']

/-- The text that the UTF-8 bytes of `spelled` stand for, read in the encoding that they show. -/
def decodeSpelled (spelled : String) : Except EncodingDefect (List Char) :=
  let bytes := spelled.toUTF8.toList
  match Encoding.detect bytes with
  | .utf8 => .ok spelled.toList
  | .utf16 bigEndian => (Encoding.units16 bigEndian 0 bytes).map Encoding.join16
  | .utf32 bigEndian => Encoding.chars32 bigEndian 0 bytes

end SearchSource.Text
