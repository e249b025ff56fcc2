import SearchSource.Number.Numeral
import SearchSource.Proofs.Json.Numerals
import SearchSource.Proofs.Text.Separated
import Mathlib.Tactic.IntervalCases

/-! The numerals of integers are read back as texts, too. Main statement:
`integerOfText?_toString`. -/
namespace SearchSource.Number
open SearchSource.Text SearchSource.Json

theorem toNat_of_isDigit {c : Char} (h : c.isDigit) : 48 ≤ c.toNat ∧ c.toNat ≤ 57 := by
  obtain ⟨hlow, hhigh⟩ := bounds_of_isDigit h
  exact ⟨hlow, hhigh⟩

theorem digit?_of_isDigit {c : Char} (h : c.isDigit) : digit? c = some (c.toNat - '0'.toNat) := by
  obtain ⟨hlow, hhigh⟩ := toNat_of_isDigit h
  have hfirst : zeros.find? (fun z => z ≤ c.toNat ∧ c.toNat < z + 10) = some 48 :=
    List.find?_cons_of_pos (by simp; omega)
  rw [digit?, hfirst]
  rfl

theorem isNumeralBlank_of_isDigit {c : Char} (h : c.isDigit) : isNumeralBlank c = false := by
  obtain ⟨hlow, hhigh⟩ := toNat_of_isDigit h
  unfold isNumeralBlank isBlank
  generalize c.toNat = m at hlow hhigh
  interval_cases m <;> rfl

/-- Digits without low lines between them are a run. -/
theorem digitRun?_of_digits {ds : List Char} (h : ∀ c ∈ ds, c.isDigit) (hne : ds ≠ []) :
    digitRun? digit? ds = some (ds.map fun c => c.toNat - '0'.toNat) := by
  induction ds with
  | nil => exact absurd rfl hne
  | cons c cs ih =>
    obtain ⟨hc, hcs⟩ := List.forall_mem_cons.mp h
    cases cs with
    | nil =>
      rw [digitRun?, digit?_of_isDigit hc]
      rfl
    | cons d rest =>
      have hd : d ≠ '_' := ne_of_isDigit (hcs d List.mem_cons_self) rfl
      rw [digitRun?, digit?_of_isDigit hc, ih hcs (List.cons_ne_nil d rest)]
      · rfl
      · intro he
        cases he
      · intro more he
        exact hd (List.cons.inj he).1

theorem trim_of_no_blank {blank : Char → Bool} {cs : List Char} (h : ∀ c ∈ cs, blank c = false) :
    trim blank cs = cs :=
  trim_of_bareEnds ⟨fun c hc => h c (List.mem_of_mem_head? hc), fun c hc =>
    h c (List.mem_of_mem_getLast? hc)⟩

theorem digitRun?_numeral (m : Nat) :
    ∃ ds, digitRun? digit? (numeral m) = some ds ∧ ds.length = (numeral m).length ∧
      ofDigits ds = m := by
  have hne : numeral m ≠ [] := Nat.toDigits_ne_nil
  refine ⟨_, digitRun?_of_digits isDigit_of_mem_numeral hne, List.length_map _, ?_⟩
  rw [← filterMap_asciiDigit? isDigit_of_mem_numeral]
  exact value_numeral m

theorem signed_numeral (m : Nat) : signed (numeral m) = (false, numeral m) := by
  obtain ⟨d, ds, hds, hd⟩ := exists_digit_numeral m
  have hminus : d ≠ '-' := ne_of_isDigit hd rfl
  have hplus : d ≠ '+' := ne_of_isDigit hd rfl
  rw [hds]
  unfold signed
  split
  · next he => exact absurd (List.cons.inj he).1 hminus
  · next he => exact absurd (List.cons.inj he).1 hplus
  · rfl

/-- An integer that is not too long is read back from its text. -/
theorem integerOfText?_toString {n : Int} (hn : n.natAbs < 10 ^ digitLimit) :
    integerOfText? (toString n) = some n := by
  obtain ⟨ds, hrun, hlength, hvalue⟩ := digitRun?_numeral n.natAbs
  have hshort : ¬digitLimit < ds.length := by
    rw [hlength, Nat.not_lt]
    exact (Nat.length_toDigits_le_iff (by decide) (by decide)).mpr hn
  have hblank : ∀ c ∈ numeral n.natAbs, isNumeralBlank c = false :=
    fun c hc => isNumeralBlank_of_isDigit (isDigit_of_mem_numeral c hc)
  rw [integerOfText?, readInteger?, toList_toString]
  by_cases hneg : n < 0
  · have htrim : trim isNumeralBlank ('-' :: numeral n.natAbs) = '-' :: numeral n.natAbs :=
      trim_of_no_blank (List.forall_mem_cons.mpr ⟨by decide, hblank⟩)
    simp [hneg, htrim, signed, hrun, hshort, hvalue, abs_of_neg hneg]
  · have hsign : |n| = n := abs_of_nonneg (not_lt.mp hneg)
    simp [hneg, trim_of_no_blank hblank, signed_numeral, hrun, hshort, hvalue, hsign]

end SearchSource.Number
