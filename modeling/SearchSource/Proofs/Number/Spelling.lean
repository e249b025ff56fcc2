import SearchSource.Proofs.Number.Numeral
import Mathlib.Data.Nat.Digits.Defs

/-! The texts that denote an integer, said without a reader: digits of any script with single low
lines between them, perhaps a sign, and white space around. Main statement:
`integerOfText?_eq_some_iff`, the reader accepts these and no others. -/
namespace SearchSource.Number
open SearchSource.Text

/-- Decimal digits with at most one low line between two of them, and their values. -/
inductive Run : List Char → List Nat → Prop
  | single {c : Char} {d : Nat} (hd : digit? c = some d) : Run [c] [d]
  | digit {c : Char} {d : Nat} {cs : List Char} {ds : List Nat} (hd : digit? c = some d)
    (rest : Run cs ds) :
    Run (c :: cs) (d :: ds)
  | lowLine {c : Char} {d : Nat} {cs : List Char} {ds : List Nat} (hd : digit? c = some d)
    (rest : Run cs ds) :
    Run (c :: '_' :: cs) (d :: ds)

/-- A sign that may be left out, and whether it makes a number negative. -/
inductive Sign : List Char → Bool → Prop
  | none : Sign [] false
  | plus : Sign ['+'] false
  | minus : Sign ['-'] true

/-- The number that digits denote, the last one counting once. -/
def signedValue (negative : Bool) (ds : List Nat) : Int :=
  if negative then -(Nat.ofDigits 10 ds.reverse : Nat) else (Nat.ofDigits 10 ds.reverse : Nat)

/-- A text that denotes an integer: a sign or none, and a run of at most 4300 digits, with white
space around. -/
inductive Spells : List Char → Int → Prop
  | intro {before sign body after : List Char} {negative : Bool} {ds : List Nat}
    (space : ∀ c ∈ before ++ after, isNumeralBlank c) (signed : Sign sign negative)
    (run : Run body ds)
    (short : ds.length ≤ 4300) :
      Spells (before ++ (sign ++ body) ++ after) (signedValue negative ds)

theorem ofDigits_eq (ds : List Nat) : ofDigits ds = Nat.ofDigits 10 ds.reverse := by
  rw [Nat.ofDigits_eq_foldr, List.foldr_reverse]
  simp only [ofDigits, Nat.cast_id, Nat.add_comm]

/-! ### Runs of digits -/

/-- A digit stands in a run of ten code points, by its value. -/
theorem digit?_eq_some {c : Char} {d : Nat} (h : digit? c = some d) :
    ∃ z ∈ zeros, d < 10 ∧ c.toNat = z + d := by
  unfold digit? at h
  obtain ⟨z, hz, hd⟩ := Option.map_eq_some_iff.mp h
  have hmem : z ∈ zeros := List.mem_of_find?_eq_some hz
  have hwithin := List.find?_some hz
  simp only [decide_eq_true_eq] at hwithin
  exact ⟨z, hmem, by omega, by omega⟩

theorem isNumeralBlank_of_digit {c : Char} {d : Nat} (h : digit? c = some d) :
    isNumeralBlank c = false := by
  have hblank : ∀ z ∈ zeros, ∀ d < 10, blanks.has (z + d) = false := by decide +kernel
  obtain ⟨z, hz, hd, hc⟩ := digit?_eq_some h
  rw [isNumeralBlank, isBlank, hc, hblank z hz d hd, Bool.false_and]

theorem digit?_lowLine : digit? '_' = none := by decide

namespace Run

variable {cs : List Char} {ds : List Nat}

theorem exists_first (h : Run cs ds) : ∃ c d rest, cs = c :: rest ∧ digit? c = some d := by
  cases h with
  | single hd => exact ⟨_, _, _, rfl, hd⟩
  | digit hd rest => exact ⟨_, _, _, rfl, hd⟩
  | lowLine hd rest => exact ⟨_, _, _, rfl, hd⟩

theorem not_blank (h : Run cs ds) : ∀ c ∈ cs, isNumeralBlank c = false := by
  induction h with
  | single hd => exact List.forall_mem_singleton.mpr (isNumeralBlank_of_digit hd)
  | digit hd rest ih => exact List.forall_mem_cons.mpr ⟨isNumeralBlank_of_digit hd, ih⟩
  | lowLine hd rest ih =>
    exact List.forall_mem_cons.mpr ⟨isNumeralBlank_of_digit hd,
      List.forall_mem_cons.mpr ⟨by decide, ih⟩⟩

end Run

theorem digitRun?_eq_some_iff {cs : List Char} {ds : List Nat} :
    digitRun? digit? cs = some ds ↔ Run cs ds := by
  constructor
  · intro h
    fun_induction digitRun? digit? cs generalizing ds with
    | case1 => cases h
    | case2 c =>
      obtain ⟨d, hd, rfl⟩ := Option.map_eq_some_iff.mp h
      exact .single hd
    | case3 c cs ih =>
      simp only [Option.bind_eq_bind, Option.bind_eq_some_iff] at h
      obtain ⟨d, hd, ds', hrest, heq⟩ := h
      cases heq
      exact .lowLine hd (ih hrest)
    | case4 c cs _ _ ih =>
      simp only [Option.bind_eq_bind, Option.bind_eq_some_iff] at h
      obtain ⟨d, hd, ds', hrest, heq⟩ := h
      cases heq
      exact .digit hd (ih hrest)
  · intro h
    induction h with
    | single hd =>
      rw [digitRun?, hd]
      rfl
    | lowLine hd rest ih =>
      rw [digitRun?, hd, ih]
      rfl
    | @digit c d cs ds hd rest ih =>
      obtain ⟨first, d', more, rfl, hfirst⟩ := rest.exists_first
      -- the next character is a digit, so that the reader does not take it for a low line
      have hne : first ≠ '_' := by
        rintro rfl
        cases digit?_lowLine.symm.trans hfirst
      rw [digitRun?, hd, ih]
      · rfl
      · exact List.cons_ne_nil first more
      · intro cs heq
        exact hne (List.cons.inj heq).1

/-! ### Signs and white space -/

theorem signed_of_sign {sign body : List Char} {negative : Bool} {ds : List Nat}
    (hsign : Sign sign negative) (hrun : Run body ds) :
    signed (sign ++ body) = (negative, body) := by
  cases hsign with
  | plus => rfl
  | minus => rfl
  | none =>
    obtain ⟨c, d, rest, rfl, hd⟩ := hrun.exists_first
    have hne {s : Char} (hs : digit? s = none) : c ≠ s := by
      rintro rfl
      cases hs.symm.trans hd
    rw [List.nil_append, signed]
    · intro cs heq
      exact hne (by decide) (List.cons.inj heq).1
    · intro cs heq
      exact hne (by decide) (List.cons.inj heq).1

theorem exists_sign {cs body : List Char} {negative : Bool} (h : signed cs = (negative, body)) :
    ∃ sign, cs = sign ++ body ∧ Sign sign negative := by
  unfold signed at h
  split at h <;> cases h
  · exact ⟨['-'], rfl, .minus⟩
  · exact ⟨['+'], rfl, .plus⟩
  · exact ⟨[], rfl, .none⟩

theorem Sign.not_blank {sign : List Char} {negative : Bool} (h : Sign sign negative) :
    ∀ c ∈ sign, isNumeralBlank c = false := by
  cases h with
  | none => exact nofun
  | plus => exact List.forall_mem_singleton.mpr (by decide)
  | minus => exact List.forall_mem_singleton.mpr (by decide)

/-- A text denotes an integer exactly if it is read as that integer. -/
theorem integerOfText?_eq_some_iff {s : String} {n : Int} :
    integerOfText? s = some n ↔ Spells s.toList n := by
  unfold integerOfText? readInteger?
  constructor
  · intro h
    obtain ⟨before, after, hs, hbefore, hafter⟩ := exists_trim isNumeralBlank s.toList
    cases hsigned : signed (trim isNumeralBlank s.toList) with
    | mk negative body =>
      rw [hsigned] at h
      simp only [Option.bind_eq_bind, Option.bind_eq_some_iff] at h
      obtain ⟨ds, hrun, h⟩ := h
      split at h
      · cases h
      · next hshort =>
        obtain ⟨sign, htrim, hsign⟩ := exists_sign hsigned
        have hvalue : n = signedValue negative ds := by
          rw [ofDigits_eq] at h
          exact (Option.some.inj h).symm
        rw [hs, htrim, hvalue]
        exact .intro (List.forall_mem_append.mpr ⟨hbefore, hafter⟩) hsign
          (digitRun?_eq_some_iff.mp hrun) (not_lt.mp hshort)
  · intro h
    generalize s.toList = cs at h
    cases h with
    | @intro before sign body after negative ds space hsign hrun short =>
      obtain ⟨hbefore, hafter⟩ := List.forall_mem_append.mp space
      have hcore : ∀ c ∈ sign ++ body, isNumeralBlank c = false :=
        List.forall_mem_append.mpr ⟨hsign.not_blank, hrun.not_blank⟩
      have hshort : ¬ digitLimit < ds.length := not_lt.mpr short
      rw [trim_append hbefore hafter, trim_of_no_blank hcore, signed_of_sign hsign hrun]
      simp only [digitRun?_eq_some_iff.mpr hrun, Option.bind_eq_bind, Option.bind_some]
      rw [if_neg hshort, ofDigits_eq]
      rfl

end SearchSource.Number
