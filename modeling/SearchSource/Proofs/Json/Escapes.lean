import SearchSource.Json.Printer
import SearchSource.Json.Reader
import Mathlib.Data.List.Basic

/-! Texts in JSON: what the escapes say is read back. Main statement: `readText_textChars`. -/
namespace SearchSource.Json
open SearchSource.Text

theorem hexDigit?_digitChar : ∀ d < 16, hexDigit? (Nat.digitChar d) = some d := by decide

theorem hex_one {n : Nat} (hn : n < 16) : hex 1 n = [Nat.digitChar n] := by
  simp [hex, Nat.toDigits_of_lt_base hn]

/-- The last digit of a padded numeral, and those before it. -/
theorem hex_succ (width n : Nat) :
    hex (width + 2) n = hex (width + 1) (n / 16) ++ [Nat.digitChar (n % 16)] := by
  rcases Nat.lt_or_ge n 16 with hn | hn
  · have hzero : n / 16 = 0 := Nat.div_eq_of_lt hn
    simp [hex, Nat.toDigits_of_lt_base hn, hzero, Nat.mod_eq_of_lt hn, List.replicate_succ']
  · simp [hex, Nat.toDigits_of_base_le (by decide) hn]

theorem hex_four {n : Nat} (hn : n < 0x10000) : hex 4 n = [Nat.digitChar (n / 16 / 16 / 16),
    Nat.digitChar (n / 16 / 16 % 16), Nat.digitChar (n / 16 % 16), Nat.digitChar (n % 16)] := by
  have htop : n / 16 / 16 / 16 < 16 := by omega
  rw [hex_succ, hex_succ, hex_succ, hex_one htop]
  rfl

/-- Four digits are read as the unit they were written for, if anything follows. -/
theorem readUnit?_hex {n : Nat} (hn : n < 0x10000) {rest : List Char} (hrest : rest ≠ []) :
    readUnit? (hex 4 n ++ rest) = some (n, rest) := by
  obtain ⟨e, more, rfl⟩ := List.exists_cons_of_ne_nil hrest
  have htop : n / 16 / 16 / 16 < 16 := by omega
  have hvalue :
      ((n / 16 / 16 / 16 * 16 + n / 16 / 16 % 16) * 16 + n / 16 % 16) * 16 + n % 16 = n := by omega
  rw [hex_four hn]
  simp only [List.cons_append, List.nil_append, readUnit?, hexDigit?_digitChar _ htop,
    hexDigit?_digitChar _ (Nat.mod_lt _ (by decide : 0 < 16)), Option.bind_eq_bind,
    Option.bind_some, hvalue]
  rfl

theorem isScalar (c : Char) : c.toNat < 0xd800 ∨ 0xdfff < c.toNat ∧ c.toNat < 0x110000 := c.valid

theorem unitChar_toNat (c : Char) : unitChar c.toNat = c := by
  have hc := isScalar c
  rw [unitChar, if_neg (by omega), Char.ofNat_toNat]

theorem joinHalves_toNat {c : Char} (hc : 0x10000 ≤ c.toNat) :
    joinHalves (0xd800 + (c.toNat - 0x10000) / 0x400)
      (0xdc00 + (c.toNat - 0x10000) % 0x400) = c := by
  have hvalue : 0x10000 + (0xd800 + (c.toNat - 0x10000) / 0x400 - 0xd800) * 0x400 +
      (0xdc00 + (c.toNat - 0x10000) % 0x400 - 0xdc00) = c.toNat := by omega
  rw [joinHalves, hvalue, Char.ofNat_toNat]

theorem isHighHalf_eq_false {n : Nat} (h : n < 0xd800 ∨ 0xdfff < n) : isHighHalf n = false := by
  simp only [isHighHalf, Bool.and_eq_false_iff, decide_eq_false_iff_not]
  omega

theorem isHighHalf_of_lt {n : Nat} (h : 0xd800 ≤ n) (h' : n < 0xdc00) : isHighHalf n = true := by
  simp [isHighHalf, h, h']

theorem isLowHalf_of_lt {n : Nat} (h : 0xdc00 ≤ n) (h' : n < 0xe000) : isLowHalf n = true := by
  simp [isLowHalf, h, h']

/-- A unit that is no half stands for itself, also before another escape. -/
theorem readUnitEscape_single {n : Nat} (hn : n < 0x10000) (hhalf : isHighHalf n = false)
    {rest : List Char} (hrest : rest ≠ []) (k : Nat) :
    readUnitEscape ⟨hex 4 n ++ rest, k⟩ = .ok (unitChar n, 4) := by
  rw [readUnitEscape, readUnit?_hex hn hrest]
  dsimp only
  split
  · rw [if_neg (by simp [hhalf])]
  · rfl

theorem readUnitEscape_pair {high low : Nat} (hhigh : isHighHalf high = true)
    (hlow : isLowHalf low = true) (hh : high < 0x10000) (hl : low < 0x10000) {rest : List Char}
    (hrest : rest ≠ []) (k : Nat) :
    readUnitEscape ⟨hex 4 high ++ '\\' :: 'u' :: (hex 4 low ++ rest), k⟩ =
      .ok (joinHalves high low, 10) := by
  have hlength : 6 < ('\\' :: 'u' :: (hex 4 low ++ rest)).length := by
    have hpos := List.length_pos_iff.mpr hrest
    rw [hex_four hl]
    simp only [List.length_cons, List.length_append, List.length_nil]
    omega
  rw [readUnitEscape, readUnit?_hex hh (by simp)]
  simp only [if_pos (And.intro hhigh hlength), readUnit?_hex hl hrest, if_pos hlow]

theorem length_hex_four {n : Nat} (hn : n < 0x10000) : (hex 4 n).length = 4 := by
  rw [hex_four hn]
  rfl

/-- Whatever follows, an escaped character is read back, and nothing of what follows with it. -/
theorem readUnitEscape_unitEscape (c : Char) {rest : List Char} (hrest : rest ≠ []) (k : Nat) :
    ∃ digits, unitEscape c.toNat = '\\' :: 'u' :: digits ∧
      readUnitEscape ⟨digits ++ rest, k⟩ = .ok (c, digits.length) := by
  have hc := isScalar c
  by_cases hone : c.toNat < 0x10000
  · refine ⟨hex 4 c.toNat, ?_, ?_⟩
    · rw [unitEscape, if_pos hone]
    · rw [readUnitEscape_single hone (isHighHalf_eq_false (by omega)) hrest, unitChar_toNat,
        length_hex_four hone]
  · have hhigh : 0xd800 + (c.toNat - 0x10000) / 0x400 < 0xdc00 := by omega
    have hlow : 0xdc00 + (c.toNat - 0x10000) % 0x400 < 0xe000 := by omega
    refine ⟨hex 4 (0xd800 + (c.toNat - 0x10000) / 0x400) ++
      '\\' :: 'u' :: hex 4 (0xdc00 + (c.toNat - 0x10000) % 0x400), ?_, ?_⟩
    · rw [unitEscape, if_neg hone, List.cons_append, List.cons_append]
    · rw [List.append_assoc, List.cons_append, List.cons_append,
        readUnitEscape_pair (isHighHalf_of_lt (by omega) hhigh) (isLowHalf_of_lt (by omega) hlow)
          (by omega) (by omega) hrest,
        joinHalves_toNat (by omega), List.length_append, List.length_cons, List.length_cons,
        length_hex_four (by omega), length_hex_four (by omega)]

theorem readChars_plain {c : Char} (hquote : c ≠ '"') (hslash : c ≠ '\\')
    (hcontrol : ¬c.toNat < 0x20) (rest : List Char) (start fuel k : Nat) (read : List Char) :
    readChars start (fuel + 1) read ⟨c :: rest, k⟩ =
      readChars start fuel (c :: read) ⟨rest, k + 1⟩ := by
  rw [readChars]
  split
  · next h => cases h
  · next h => exact absurd (List.cons.inj h).1 hquote
  · next h => exact absurd (List.cons.inj h).1 hslash
  · next h => exact absurd (List.cons.inj h).1 hslash
  · next h => exact absurd (List.cons.inj h).1 hslash
  · next x more _ _ _ _ h =>
    cases h
    rw [if_neg hcontrol]
    rfl

/-- One more character of a text is read. -/
theorem readChars_escapeChar (asciiOnly : Bool) (c : Char) {rest : List Char} (hrest : rest ≠ [])
    (start fuel k : Nat) (read : List Char) :
    ∃ k', readChars start (fuel + 1) read ⟨escapeChar asciiOnly c ++ rest, k⟩ =
      readChars start fuel (c :: read) ⟨rest, k'⟩ := by
  by_cases hshort : c = '"' ∨ c = '\\' ∨ c = '\n' ∨ c = '\r' ∨ c = '\t' ∨ c = '\x08' ∨ c = '\x0c'
  · refine ⟨k + 2, ?_⟩
    rcases hshort with rfl | rfl | rfl | rfl | rfl | rfl | rfl <;> rfl
  simp only [not_or] at hshort
  obtain ⟨hquote, hslash, hn, hr, ht, hb, hf⟩ := hshort
  rw [escapeChar, if_neg (not_or.mpr ⟨hquote, hslash⟩), if_neg hn, if_neg hr, if_neg ht, if_neg hb,
    if_neg hf]
  split
  · obtain ⟨digits, hdigits, hread⟩ := readUnitEscape_unitEscape c hrest (k + 2)
    refine ⟨k + (2 + digits.length), ?_⟩
    have hstep : readChars start (fuel + 1) read ⟨'\\' :: 'u' :: (digits ++ rest), k⟩ = (do
        let p ← readUnitEscape ⟨digits ++ rest, k + 2⟩
        readChars start fuel (p.1 :: read)
          (Cursor.advance ⟨'\\' :: 'u' :: (digits ++ rest), k⟩ (2 + p.2))) := rfl
    have hadvance : Cursor.advance ⟨'\\' :: 'u' :: (digits ++ rest), k⟩ (2 + digits.length) =
        ⟨rest, k + (2 + digits.length)⟩ := by
      simp [Cursor.advance, Nat.add_comm 2]
    rw [hdigits, List.cons_append, List.cons_append, hstep, hread]
    exact congrArg (readChars start fuel (c :: read)) hadvance
  · next hplain =>
    exact ⟨k + 1, readChars_plain hquote hslash (not_or.mp hplain).1 rest start fuel k read⟩

theorem readChars_flatMap (asciiOnly : Bool) (s rest : List Char) (start k : Nat) {fuel : Nat}
    (hfuel : s.length < fuel) (read : List Char) :
    ∃ k', readChars start fuel read ⟨s.flatMap (escapeChar asciiOnly) ++ '"' :: rest, k⟩ =
      .ok (String.ofList (read.reverse ++ s), ⟨rest, k'⟩) := by
  induction s generalizing fuel k read with
  | nil =>
    obtain ⟨fuel, rfl⟩ := Nat.exists_eq_add_of_lt hfuel
    rw [List.append_nil]
    exact ⟨k + 1, rfl⟩
  | cons c s ih =>
    obtain ⟨fuel, rfl⟩ : ∃ n, fuel = n + 1 := Nat.exists_eq_add_one.mpr (Nat.zero_lt_of_lt hfuel)
    have hrest : s.flatMap (escapeChar asciiOnly) ++ '"' :: rest ≠ [] := by simp
    obtain ⟨k', hstep⟩ := readChars_escapeChar asciiOnly c hrest start fuel k read
    obtain ⟨k'', hread⟩ := ih k' (Nat.lt_of_succ_lt_succ hfuel) (c :: read)
    refine ⟨k'', ?_⟩
    rw [List.flatMap_cons, List.append_assoc, hstep, hread, List.reverse_cons, List.append_assoc,
      List.singleton_append]

theorem escapeChar_ne_nil (asciiOnly : Bool) (c : Char) : escapeChar asciiOnly c ≠ [] := by
  unfold escapeChar
  split_ifs
  any_goals exact List.cons_ne_nil _ _
  unfold unitEscape
  split <;> exact List.cons_ne_nil _ _

theorem length_le_length_flatMap (asciiOnly : Bool) (s : List Char) :
    s.length ≤ (s.flatMap (escapeChar asciiOnly)).length := by
  induction s with
  | nil => exact Nat.le_refl _
  | cons c s ih =>
    have hpos := List.length_pos_iff.mpr (escapeChar_ne_nil asciiOnly c)
    rw [List.flatMap_cons, List.length_append, List.length_cons]
    omega

/-- A text is read back after its opening quote. -/
theorem readText_textChars (asciiOnly : Bool) (s : String) (rest : List Char) (k : Nat) :
    ∃ k' body, textChars asciiOnly s = '"' :: body ∧
      readText ⟨body ++ rest, k⟩ = .ok (s, ⟨rest, k'⟩) := by
  have hlength := length_le_length_flatMap asciiOnly s.toList
  have hfuel :
      s.toList.length < (s.toList.flatMap (escapeChar asciiOnly) ++ '"' :: rest).length + 1 := by
    rw [List.length_append]
    omega
  obtain ⟨k', hread⟩ := readChars_flatMap asciiOnly s.toList rest (k - 1) k hfuel []
  refine ⟨k', s.toList.flatMap (escapeChar asciiOnly) ++ ['"'], rfl, ?_⟩
  rw [List.append_assoc, List.singleton_append, readText, hread, List.reverse_nil, List.nil_append,
    String.ofList_toList]

end SearchSource.Json
