import SearchSource.Text.Case
import Mathlib.Data.List.Basic

/-! Case of ASCII texts: only the first run of either table reaches down to ASCII, so their letters
are mapped as usual and all else stays. Main statements: `upper_of_ascii` and `lower_of_ascii`. -/
namespace SearchSource.Text

def isAscii (c : Char) : Bool := c.toNat < 0x80

/-- Runs that begin behind a character leave it alone. -/
theorem applyRuns_of_lt {runs : List CaseRun} {c : Char} (h : ∀ r ∈ runs, c.toNat < r.first) :
    applyRuns runs c = c := by
  have hnone : runs.findSome? (·.image? c.toNat) = none := by
    rw [List.findSome?_eq_none_iff]
    intro r hr
    have hlt := h r hr
    rw [CaseRun.image?, if_neg (by omega)]
  rw [applyRuns, hnone]
  rfl

/-- Of a table in which only the first run starts in ASCII, only this run counts for ASCII. -/
theorem applyRuns_of_ascii (letters : CaseRun) (runs : List CaseRun) {f : Char → Char}
    (hruns : ∀ r ∈ runs, 0x80 ≤ r.first)
    (hletters : ∀ n < 0x80,
      ((letters.image? n).map Char.ofNat).getD (Char.ofNat n) = f (Char.ofNat n))
    {c : Char} (h : isAscii c) : applyRuns (letters :: runs) c = f c := by
  have hc : c.toNat < 0x80 := of_decide_eq_true h
  have hothers : applyRuns runs c = c :=
    applyRuns_of_lt fun r hr => Nat.lt_of_lt_of_le hc (hruns r hr)
  have hletter := hletters c.toNat hc
  rw [Char.ofNat_toNat] at hletter
  rw [← hletter]
  unfold applyRuns at hothers ⊢
  rw [List.findSome?_cons]
  cases letters.image? c.toNat with
  | none => exact hothers
  | some n => rfl

theorem upperChar_of_ascii {c : Char} (h : isAscii c) : upperChar c = [c.toUpper] := by
  have hc : c.toNat < 0x80 := of_decide_eq_true h
  have hexpands : upperExpansions.lookup c.toNat = none := by
    have hfar : ∀ e ∈ upperExpansions, 0x80 ≤ e.1 := by decide +kernel
    rw [List.lookup_eq_none_iff]
    intro e he
    have hne : c.toNat ≠ e.1 := Nat.ne_of_lt (Nat.lt_of_lt_of_le hc (hfar e he))
    simpa using hne
  have hruns : applyRuns upperRuns c = c.toUpper :=
    applyRuns_of_ascii ⟨0x61, 0x7a, 1, -32⟩ upperRuns.tail (by decide +kernel) (by decide) h
  rw [upperChar, hexpands, hruns]

theorem lowerChar_of_ascii {c : Char} (h : isAscii c) : lowerChar c = [c.toLower] := by
  have hdot : c ≠ '\u0130' := by
    rintro rfl
    cases h
  have hruns : applyRuns lowerRuns c = c.toLower :=
    applyRuns_of_ascii ⟨0x41, 0x5a, 1, 32⟩ lowerRuns.tail (by decide +kernel) (by decide) h
  rw [lowerChar, if_neg hdot, hruns]

theorem upper_of_ascii {s : String} (h : s.toList.all isAscii) :
    upper s = String.ofList (s.toList.map Char.toUpper) := by
  have hchars {cs : List Char} (h : cs.all isAscii) :
      cs.flatMap upperChar = cs.map Char.toUpper := by
    induction cs with
    | nil => rfl
    | cons c cs ih =>
      rw [List.all_cons, Bool.and_eq_true] at h
      rw [List.flatMap_cons, upperChar_of_ascii h.1, ih h.2]
      rfl
  rw [upper, hchars h]

theorem lower_of_ascii {s : String} (h : s.toList.all isAscii) :
    lower s = String.ofList (s.toList.map Char.toLower) := by
  have hchars {cs : List Char} (h : cs.all isAscii) (before : List Char) :
      lowerAfter before cs = cs.map Char.toLower := by
    induction cs generalizing before with
    | nil => rfl
    | cons c cs ih =>
      have hsigma : c ≠ '\u03a3' := by
        rintro rfl
        cases h
      rw [List.all_cons, Bool.and_eq_true] at h
      rw [lowerAfter, if_neg hsigma, lowerChar_of_ascii h.1, ih h.2]
      rfl
  rw [lower, hchars h]

end SearchSource.Text
