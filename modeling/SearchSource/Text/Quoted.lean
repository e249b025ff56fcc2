import SearchSource.Text.Printable
import SearchSource.Text.Encoding

/-! Quoted literals of texts and byte strings, and the wording of bytes that spell no text. -/
namespace SearchSource.Text

/-- The lower-case digits of `n` in base sixteen, padded with zeros to `width`. -/
def hex (width n : Nat) : List Char :=
  let ds := Nat.toDigits 16 n
  List.replicate (width - ds.length) '0' ++ ds

/-- Double quotes are chosen only for a text that has single quotes and no double ones. -/
def quoteFor (cs : List Char) : Char :=
  if '\'' ∈ cs ∧ '"' ∉ cs then '"' else '\''

/-- A control or separator character by its code, in the shortest of three widths. -/
def codeEscape (c : Char) : List Char :=
  let n := c.toNat
  if n ≤ 0xff then '\\' :: 'x' :: hex 2 n
  else if n ≤ 0xffff then '\\' :: 'u' :: hex 4 n
  else '\\' :: 'U' :: hex 8 n

def escapeChar (quote c : Char) : List Char :=
  if c = quote ∨ c = '\\' then ['\\', c]
  else if c = '\n' then ['\\', 'n']
  else if c = '\r' then ['\\', 'r']
  else if c = '\t' then ['\\', 't']
  else if isPrintable c then [c]
  else codeEscape c

def quoted (s : String) : String :=
  let quote := quoteFor s.toList
  String.ofList (quote :: s.toList.flatMap (escapeChar quote) ++ [quote])

def escapeByte (quote : Char) (b : UInt8) : List Char :=
  if b < 0x20 ∨ 0x7f ≤ b then
    if b = 0x0a ∨ b = 0x0d ∨ b = 0x09 then escapeChar quote (Char.ofNat b.toNat)
    else '\\' :: 'x' :: hex 2 b.toNat
  else escapeChar quote (Char.ofNat b.toNat)

def quotedBytes (s : String) : String :=
  let quote := quoteFor s.toList
  String.ofList ('b' :: quote :: s.toUTF8.toList.flatMap (escapeByte quote) ++ [quote])

/-- A defect of one byte shows it; one of several bytes shows where they are. -/
def EncodingDefect.message (d : EncodingDefect) : String :=
  let place := match d.bytes with
    | [b] => "byte 0x" ++ String.ofList (hex 2 b.toNat) ++ " in position " ++ toString d.start
    | bs => "bytes in position " ++ toString d.start ++ "-" ++ toString (d.start + bs.length - 1)
  "'" ++ d.encoding.name ++ "' codec can't decode " ++ place ++ ": " ++ d.reason

end SearchSource.Text
