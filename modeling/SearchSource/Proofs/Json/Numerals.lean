import SearchSource.Json.Printer
import SearchSource.Json.Reader
import SearchSource.Proofs.Json.Writable
import Mathlib.Data.List.Basic

/-! Integers in JSON: their numerals are read back, up to what may follow a value. Main statement:
`readNumber_toString`. -/
namespace SearchSource.Json
open SearchSource.Number SearchSource.Text

/-- What may stand behind a value: nothing, or a mark that ends an item, a list or an object. -/
def Ends (rest : List Char) : Prop := ∀ c ∈ rest.head?, c = ',' ∨ c = ']' ∨ c = '\x7d'

theorem Ends.cases {rest : List Char} (h : Ends rest) :
    rest = [] ∨ ∃ c more, rest = c :: more ∧ (c = ',' ∨ c = ']' ∨ c = '\x7d') := by
  cases rest with
  | nil => exact .inl rfl
  | cons c more => exact .inr ⟨c, more, rfl, h c rfl⟩

theorem bounds_of_isDigit {c : Char} (h : c.isDigit) : '0' ≤ c ∧ c ≤ '9' := by
  simpa [Char.isDigit, Char.le_def] using h

theorem ne_of_isDigit {c x : Char} (hc : c.isDigit) (hx : x.isDigit = false) : c ≠ x := by
  rintro rfl
  rw [hx] at hc
  cases hc

theorem asciiDigit?_of_isDigit {c : Char} (h : c.isDigit) :
    asciiDigit? c = some (c.toNat - '0'.toNat) := by
  rw [asciiDigit?, if_pos (bounds_of_isDigit h)]

theorem takeWhile_of_ends {rest : List Char} (h : Ends rest) :
    rest.takeWhile (fun c => (asciiDigit? c).isSome) = [] := by
  rcases h.cases with rfl | ⟨c, more, rfl, rfl | rfl | rfl⟩ <;> rfl

theorem fractionAhead_of_ends {rest : List Char} (h : Ends rest) : fractionAhead rest = [] := by
  rcases h.cases with rfl | ⟨c, more, rfl, rfl | rfl | rfl⟩ <;> rfl

theorem exponentAhead_of_ends {rest : List Char} (h : Ends rest) : exponentAhead rest = none := by
  rcases h.cases with rfl | ⟨c, more, rfl, rfl | rfl | rfl⟩ <;> rfl

section Digits

variable {ds : List Char} (hds : ∀ c ∈ ds, c.isDigit)

include hds

theorem filterMap_asciiDigit? :
    ds.filterMap asciiDigit? = ds.map (fun c => c.toNat - '0'.toNat) := by
  rw [← List.filterMap_eq_map']
  exact List.filterMap_congr fun c hc => asciiDigit?_of_isDigit (hds c hc)

theorem ofDigits_filterMap : ofDigits (ds.filterMap asciiDigit?) = Nat.ofDigitChars 10 ds 0 := by
  rw [filterMap_asciiDigit? hds, ofDigits, List.foldl_map]
  rfl

theorem digitsAhead_append {rest : List Char} (h : Ends rest) :
    digitsAhead (ds ++ rest) = ds.filterMap asciiDigit? := by
  have hsome : ∀ c ∈ ds, (asciiDigit? c).isSome :=
    fun c hc => by rw [asciiDigit?_of_isDigit (hds c hc)]; rfl
  rw [digitsAhead, List.takeWhile_append_of_pos hsome, takeWhile_of_ends h, List.append_nil]

theorem length_digitsAhead {rest : List Char} (h : Ends rest) :
    (digitsAhead (ds ++ rest)).length = ds.length := by
  rw [digitsAhead_append hds h, filterMap_asciiDigit? hds, List.length_map]

end Digits

/-- The digits of an integer without its sign. -/
def numeral (m : Nat) : List Char := Nat.toDigits 10 m

theorem isDigit_of_mem_numeral {m : Nat} : ∀ c ∈ numeral m, c.isDigit :=
  fun _ hc => Nat.isDigit_of_mem_toDigits (by decide) (by decide) hc

theorem value_numeral (m : Nat) : ofDigits ((numeral m).filterMap asciiDigit?) = m := by
  rw [ofDigits_filterMap isDigit_of_mem_numeral]
  exact Nat.ofDigitChars_toDigits (by decide) (by decide)

/-- Only the numeral of zero begins with a zero. -/
theorem numeral_eq_cons_zero (m : Nat) : ∀ more, numeral m = '0' :: more → more = [] := by
  induction m using Nat.strongRecOn with
  | ind m ih =>
    intro more h
    rcases Nat.lt_or_ge m 10 with hm | hm
    · rw [numeral, Nat.toDigits_of_lt_base hm] at h
      exact (List.cons.inj h).2.symm
    · rw [numeral, Nat.toDigits_of_base_le (by decide) hm, ← numeral] at h
      -- the leading digits are those of a smaller number, and that one is zero then
      have hne : numeral (m / 10) ≠ [] := Nat.toDigits_ne_nil
      obtain ⟨c, cs, hcs⟩ := List.exists_cons_of_ne_nil hne
      rw [hcs, List.cons_append] at h
      have hc : c = '0' := (List.cons.inj h).1
      subst hc
      have hnil : cs = [] := ih (m / 10) (by omega) cs hcs
      have hvalue : ofDigits ((numeral (m / 10)).filterMap asciiDigit?) = m / 10 :=
        value_numeral (m / 10)
      rw [hcs, hnil] at hvalue
      have hzero : m / 10 = 0 := hvalue.symm
      omega

theorem wholeLength_numeral (m : Nat) {rest : List Char} (h : Ends rest) :
    wholeLength (numeral m ++ rest) = some (numeral m).length := by
  have hne : numeral m ≠ [] := Nat.toDigits_ne_nil
  obtain ⟨c, cs, hcs⟩ := List.exists_cons_of_ne_nil hne
  by_cases hc : c = '0'
  · subst hc
    rw [hcs, numeral_eq_cons_zero m cs hcs]
    rfl
  · have hlength : (digitsAhead (numeral m ++ rest)).length = (numeral m).length :=
      length_digitsAhead isDigit_of_mem_numeral h
    have hahead : digitsAhead (numeral m ++ rest) ≠ [] := by
      rw [← List.length_pos_iff, hlength]
      exact List.length_pos_iff.mpr hne
    rw [wholeLength, if_neg (by simpa using hahead), hlength]
    intro tail htail
    rw [hcs, List.cons_append] at htail
    exact hc (List.cons.inj htail).1

theorem exists_digit_numeral (m : Nat) : ∃ d ds, numeral m = d :: ds ∧ d.isDigit := by
  have hne : numeral m ≠ [] := Nat.toDigits_ne_nil
  obtain ⟨d, ds, hds⟩ := List.exists_cons_of_ne_nil hne
  have hmem : d ∈ numeral m := by simp [hds]
  exact ⟨d, ds, hds, isDigit_of_mem_numeral d hmem⟩

theorem toList_toString (n : Int) :
    (toString n).toList = if n < 0 then '-' :: numeral n.natAbs else numeral n.natAbs := by
  rw [Int.toString_eq_repr, Int.repr_eq_if]
  split
  · next h =>
    have hsize : n.toNat = n.natAbs := by omega
    rw [if_neg (by omega), Nat.toList_repr, hsize]
    rfl
  · next h =>
    have hsize : (-n).toNat = n.natAbs := by omega
    rw [if_pos (by omega), String.toList_append, Nat.toList_repr, hsize]
    rfl

/-- An integer that is not too long is read back from its text. -/
theorem readNumber_toString {n : Int} (hn : n.natAbs < 10 ^ digitLimit) {rest : List Char}
    (h : Ends rest) (k : Nat) :
    ∃ k', readNumber ⟨(toString n).toList ++ rest, k⟩ = .ok (.int n, ⟨rest, k'⟩) := by
  have hlength : ((numeral n.natAbs).filterMap asciiDigit?).length = (numeral n.natAbs).length := by
    rw [filterMap_asciiDigit? isDigit_of_mem_numeral, List.length_map]
  have hshort : ¬digitLimit < (numeral n.natAbs).length :=
    Nat.not_lt.mpr ((Nat.length_toDigits_le_iff (by decide) (by decide)).mpr hn)
  rw [toList_toString]
  split
  · next hneg =>
    have hvalue : -(n.natAbs : Int) = n := by omega
    refine ⟨k + 1 + (numeral n.natAbs).length, ?_⟩
    rw [readNumber]
    simp only [List.cons_append, List.head?_cons, if_true, Cursor.advance, List.drop_succ_cons,
      List.drop_zero, wholeLength_numeral n.natAbs h, List.drop_left, List.take_left,
      fractionAhead_of_ends h, List.isEmpty_nil, exponentAhead_of_ends h, not_true, if_false,
      hlength, hshort, value_numeral, hvalue]
  · next hpos =>
    have hvalue : (n.natAbs : Int) = n := by omega
    have hhead : (numeral n.natAbs ++ rest).head? ≠ some '-' := by
      obtain ⟨d, ds, hds, hd⟩ := exists_digit_numeral n.natAbs
      rw [hds, List.cons_append, List.head?_cons]
      rintro ⟨⟩
      cases hd
    refine ⟨k + (numeral n.natAbs).length, ?_⟩
    rw [readNumber]
    simp only [hhead, if_false, Cursor.advance, wholeLength_numeral n.natAbs h, List.drop_left,
      List.take_left, fractionAhead_of_ends h, List.isEmpty_nil, exponentAhead_of_ends h, not_true,
      if_true, hlength, hshort, value_numeral, hvalue]

end SearchSource.Json
