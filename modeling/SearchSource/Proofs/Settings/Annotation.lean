import SearchSource.Settings.Annotation
import SearchSource.Proofs.Text.Separated

/-! Annotations that offer one type besides nothing, in any order and with any blanks around the
bars. Main statement: `typeName_of_offers`, a setting is read as that type. -/
namespace SearchSource.Annotation
open SearchSource.Text

/-- A word without blanks at its ends and without a bar. -/
structure IsWord (word : String) : Prop where
  bare : BareEnds isBlank word.toList
  no_bar : '|' ∉ word.toList

/-- The word with blanks around it. -/
def Spaced (word part : String) : Prop :=
  ∃ before after, part.toList = before ++ word.toList ++ after ∧ ∀ c ∈ before ++ after, isBlank c

/-- One type, and any number of times nothing. -/
def Alternatives (type : String) (words : List String) : Prop :=
  type ∈ words ∧ ∀ w ∈ words, w = type ∨ w = nothing

/-- The annotations whose alternatives are one type and nothing. -/
inductive Offers (type : String) : Annotation → Prop
  | written {words parts : List String} (alternatives : Alternatives type words)
    (spaced : List.Forall₂ Spaced words parts) : Offers type (.written ("|".intercalate parts))
  | plain : Offers type (.plain type)
  | union {members : List String} (alternatives : Alternatives type members) :
    Offers type (.union members)

theorem isWord_nothing : IsWord nothing := by
  refine ⟨⟨?_, ?_⟩, by decide⟩
  · rintro c ⟨⟩
    rfl
  · rintro c ⟨⟩
    rfl

section Spaced

variable {word part : String}

theorem spaced_self (word : String) : Spaced word word := ⟨[], [], by simp, by simp⟩

theorem spaced_append (word : String) : Spaced word (word ++ " ") :=
  ⟨[], [' '], by simp, List.forall_mem_singleton.mpr rfl⟩

theorem Spaced.cons (h : Spaced word part) : Spaced word (" " ++ part) := by
  obtain ⟨before, after, hpart, hblank⟩ := h
  exact ⟨' ' :: before, after, by simp [hpart], List.forall_mem_cons.mpr ⟨rfl, hblank⟩⟩

theorem Spaced.strip (h : Spaced word part) (hword : IsWord word) : strip part = word := by
  obtain ⟨before, after, hpart, hblank⟩ := h
  obtain ⟨hbefore, hafter⟩ := List.forall_mem_append.mp hblank
  rw [Text.strip, hpart, trim_append hbefore hafter, trim_of_bareEnds hword.bare,
    String.ofList_toList]

theorem Spaced.no_bar (h : Spaced word part) (hword : IsWord word) : '|' ∉ part.toList := by
  obtain ⟨before, after, hpart, hblank⟩ := h
  have hbar : isBlank '|' = false := by decide
  have haround : '|' ∉ before ++ after := fun hmem => by simp [hblank _ hmem] at hbar
  rw [List.mem_append, not_or] at haround
  simp [hpart, haround, hword.no_bar]

end Spaced

theorem map_strip {words parts : List String} (hwords : ∀ w ∈ words, IsWord w)
    (h : List.Forall₂ Spaced words parts) :
    parts.map strip = words ∧ ∀ p ∈ parts, '|' ∉ p.toList := by
  induction h with
  | nil => exact ⟨rfl, nofun⟩
  | cons hpart _ ih =>
    obtain ⟨hword, hwords⟩ := List.forall_mem_cons.mp hwords
    obtain ⟨hstrip, hbars⟩ := ih hwords
    refine ⟨?_, List.forall_mem_cons.mpr ⟨hpart.no_bar hword, hbars⟩⟩
    rw [List.map_cons, hpart.strip hword, hstrip]

/-- Splitting at the bars and dropping the blanks gives the words back. -/
theorem map_strip_splitAt {words parts : List String} (hne : words ≠ [])
    (hwords : ∀ w ∈ words, IsWord w) (h : List.Forall₂ Spaced words parts) :
    (splitAt '|' ("|".intercalate parts)).map strip = words := by
  obtain ⟨hstrip, hbars⟩ := map_strip hwords h
  have hparts : parts ≠ [] := by
    rintro rfl
    exact hne hstrip.symm
  have hsplit : splitAt '|' ("|".intercalate parts) = parts := splitAt_intercalate hparts hbars
  rw [hsplit, hstrip]

/-- Bars with a blank on each side are bars between words with blanks around them. -/
theorem intercalate_members (members : List String) :
    ∃ parts, " | ".intercalate members = "|".intercalate parts ∧
      List.Forall₂ Spaced members parts := by
  induction members with
  | nil => exact ⟨[], rfl, .nil⟩
  | cons m members ih =>
    obtain ⟨parts, hjoined, hspaced⟩ := ih
    cases hspaced with
    | nil => exact ⟨[m], by simp, .cons (spaced_self m) .nil⟩
    | @cons next part members parts hpart hparts =>
      refine ⟨(m ++ " ") :: (" " ++ part) :: parts, ?_,
        .cons (spaced_append m) (.cons hpart.cons hparts)⟩
      -- the blank behind the bar goes to the front of the next part
      have hfront :
          "|".intercalate ((" " ++ part) :: parts) = " " ++ "|".intercalate (part :: parts) := by
        cases parts with
        | nil => simp
        | cons p ps => simp [String.intercalate_cons_cons, String.append_assoc]
      rw [String.intercalate_cons_cons, String.intercalate_cons_cons, hfront, hjoined]
      simp [← String.toList_inj]

section Offered

variable {type : String} (htype : IsWord type) (hne : type ≠ nothing)

include htype hne

theorem firstAlternative_intercalate {words parts : List String} (h : Alternatives type words)
    (hspaced : List.Forall₂ Spaced words parts) :
    firstAlternative ("|".intercalate parts) = type := by
  obtain ⟨hmem, hothers⟩ := h
  have hwords : ∀ w ∈ words, IsWord w :=
    fun w hw => (hothers w hw).elim (· ▸ htype) (· ▸ isWord_nothing)
  rw [firstAlternative, map_strip_splitAt (List.ne_nil_of_mem hmem) hwords hspaced]
  cases hfind : words.find? (· ≠ nothing) with
  | none => exact absurd (List.find?_eq_none.mp hfind type hmem) (by simp [hne])
  | some word =>
    have hword : word ≠ nothing := by simpa using List.find?_some hfind
    exact (hothers word (List.mem_of_find?_eq_some hfind)).resolve_right hword

/-- A setting is read as the one type that its annotation offers. -/
theorem typeName_of_offers {a : Annotation} (h : a.Offers type) : a.typeName = type := by
  cases h with
  | written alternatives hspaced =>
    exact firstAlternative_intercalate htype hne alternatives hspaced
  | plain => rfl
  | @union members alternatives =>
    obtain ⟨parts, hjoined, hspaced⟩ := intercalate_members members
    rw [typeName, hjoined]
    exact firstAlternative_intercalate htype hne alternatives hspaced

end Offered

end SearchSource.Annotation
