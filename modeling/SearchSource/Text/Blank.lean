import SearchSource.Text.CharSet

/-! Blank characters, and removing them from the ends of a text. -/
namespace SearchSource.Text

/-- White space of Unicode together with the four information separators. -/
def blanks : CharSet := [
  0x9, 0xe, 0x1c, 0x21, 0x85, 0x86, 0xa0, 0xa1, 0x1680, 0x1681, 0x2000, 0x200b, 0x2028, 0x202a,
  0x202f, 0x2030, 0x205f, 0x2060, 0x3000, 0x3001]

def isBlank (c : Char) : Bool := blanks.has c.toNat

/-- The blanks allowed around a numeral leave out the information separators. -/
def isNumeralBlank (c : Char) : Bool :=
  isBlank c && !(0x1c ≤ c.toNat && c.toNat ≤ 0x1f)

def trim (p : Char → Bool) (cs : List Char) : List Char :=
  ((cs.dropWhile p).reverse.dropWhile p).reverse

/-- A text without the blanks at its ends. -/
def strip (s : String) : String := String.ofList (trim isBlank s.toList)

end SearchSource.Text
