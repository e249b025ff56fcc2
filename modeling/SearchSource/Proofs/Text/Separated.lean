import SearchSource.Text.Separated
import Mathlib.Data.List.DropRight

/-! Splitting a text at a separator undoes joining with it, breaking a text finds the first
separator, and trimming a text leaves its ends bare. -/
namespace SearchSource.Text

theorem pieces_eq_splitOn (sep : Char) (cs : List Char) : pieces sep cs = cs.splitOn sep := by
  induction cs with
  | nil => rfl
  | cons c cs ih =>
    rw [pieces, ih, List.splitOn_cons_eq_if_modifyHead]
    by_cases hc : c = sep
    · simp [hc]
    · obtain ⟨p, ps, hsplit⟩ := List.exists_cons_of_ne_nil (List.splitOn_ne_nil sep cs)
      rw [if_neg hc, if_neg (by simpa using hc), hsplit]
      rfl

theorem not_mem_of_mem_pieces {sep : Char} {cs : List Char} :
    ∀ piece ∈ pieces sep cs, sep ∉ piece := by
  induction cs with
  | nil => exact List.forall_mem_singleton.mpr List.not_mem_nil
  | cons c cs ih =>
    rw [pieces]
    by_cases hc : c = sep
    · rw [if_pos hc]
      exact List.forall_mem_cons.mpr ⟨List.not_mem_nil, ih⟩
    · rw [if_neg hc]
      cases hpieces : pieces sep cs with
      | nil => exact List.forall_mem_singleton.mpr (by simpa using Ne.symm hc)
      | cons piece others =>
        rw [hpieces] at ih
        obtain ⟨hpiece, hothers⟩ := List.forall_mem_cons.mp ih
        exact List.forall_mem_cons.mpr
          ⟨List.not_mem_cons_of_ne_of_not_mem (Ne.symm hc) hpiece, hothers⟩

theorem splitAt_append (sep : Char) (a b : String) :
    splitAt sep (a ++ String.singleton sep ++ b) = splitAt sep a ++ splitAt sep b := by
  have hjoined : (a ++ String.singleton sep ++ b).toList = a.toList ++ sep :: b.toList := by simp
  rw [splitAt, splitAt, splitAt, hjoined, pieces_eq_splitOn, pieces_eq_splitOn, pieces_eq_splitOn,
    List.splitOn_append_cons_self, List.map_append]

theorem splitAt_intercalate {sep : Char} {names : List String} (hne : names ≠ [])
    (h : ∀ n ∈ names, sep ∉ n.toList) :
    splitAt sep ((String.singleton sep).intercalate names) = names := by
  have hsplit :
      ([sep].intercalate (names.map String.toList)).splitOn sep = names.map String.toList :=
    List.splitOn_intercalate sep (by simpa using h) (by simpa using hne)
  unfold splitAt
  rw [pieces_eq_splitOn, String.toList_intercalate, String.toList_singleton, hsplit, List.map_map]
  conv_rhs => rw [← List.map_id names]
  exact List.map_congr_left fun n _ => String.ofList_toList

theorem breakAt?_eq_none {sep : Char} {cs : List Char} : breakAt? sep cs = none ↔ sep ∉ cs := by
  induction cs with
  | nil => simp [breakAt?]
  | cons c cs ih =>
    by_cases hc : c = sep
    · simp [breakAt?, hc]
    · simp [breakAt?, hc, Ne.symm hc, ih]

theorem breakAt?_append {sep : Char} {before : List Char} (h : sep ∉ before) (after : List Char) :
    breakAt? sep (before ++ sep :: after) = some (before, after) := by
  induction before with
  | nil => simp [breakAt?]
  | cons c before ih =>
    rw [List.mem_cons, not_or] at h
    rw [List.cons_append, breakAt?, if_neg (Ne.symm h.1), ih h.2]
    rfl

/-- A text in which the separator occurs is what stands before its first occurrence, the separator,
and the rest. -/
theorem exists_breakAt? {sep : Char} {cs : List Char} (h : sep ∈ cs) :
    ∃ before after, cs = before ++ sep :: after ∧ sep ∉ before ∧
      breakAt? sep cs = some (before, after) := by
  obtain ⟨before, after, hcs, hbefore⟩ := List.eq_append_cons_of_mem h
  exact ⟨before, after, hcs, hbefore, hcs ▸ breakAt?_append hbefore after⟩

section Trim

variable {p : Char → Bool} {cs : List Char}

/-- Neither the first nor the last character satisfies `p`. -/
def BareEnds (p : Char → Bool) (cs : List Char) : Prop :=
  (∀ c ∈ cs.head?, p c = false) ∧ ∀ c ∈ cs.getLast?, p c = false

theorem trim_eq_rdropWhile : trim p cs = (cs.dropWhile p).rdropWhile p := rfl

theorem mem_of_mem_trim {c : Char} (h : c ∈ trim p cs) : c ∈ cs :=
  (List.dropWhile_suffix p).mem ((List.rdropWhile_prefix p _).mem h)

theorem bareEnds_trim : BareEnds p (trim p cs) := by
  constructor
  · intro c hc
    -- what is dropped at the end leaves the first character where it is
    have hfirst : (cs.dropWhile p).head? = some c := by
      obtain ⟨rest, hrest⟩ := List.rdropWhile_prefix p (cs.dropWhile p)
      rw [← hrest, List.head?_append, ← trim_eq_rdropWhile, hc]
      rfl
    have hnot := List.head?_dropWhile_not p cs
    rw [hfirst] at hnot
    exact hnot
  · intro c hc
    obtain ⟨hne, hlast⟩ := List.mem_getLast?_eq_getLast hc
    rw [hlast]
    exact Bool.eq_false_iff.mpr (List.rdropWhile_last_not p (cs.dropWhile p) hne)

theorem trim_of_bareEnds (h : BareEnds p cs) : trim p cs = cs := by
  have hfirst : cs.dropWhile p = cs := by
    cases cs with
    | nil => rfl
    | cons c cs => exact List.dropWhile_cons_of_neg (by simp [h.1 c rfl])
  rw [trim_eq_rdropWhile, hfirst, List.rdropWhile_eq_self_iff]
  intro hne
  simp [h.2 _ (List.getLast?_eq_some_getLast hne)]

theorem exists_trim (p : Char → Bool) (cs : List Char) :
    ∃ before after, cs = before ++ trim p cs ++ after ∧ (∀ c ∈ before, p c) ∧ ∀ c ∈ after, p c := by
  have hend (l : List Char) : l.rdropWhile p ++ l.rtakeWhile p = l := by
    rw [List.rdropWhile, List.rtakeWhile, ← List.reverse_append, List.takeWhile_append_dropWhile,
      List.reverse_reverse]
  refine ⟨cs.takeWhile p, (cs.dropWhile p).rtakeWhile p, ?_, ?_, ?_⟩
  · rw [trim_eq_rdropWhile, List.append_assoc, hend, List.takeWhile_append_dropWhile]
  · exact fun c hc => List.mem_takeWhile_imp hc
  · exact fun c hc => List.mem_rtakeWhile_imp hc

/-- What satisfies `p` around a text goes with its ends. -/
theorem trim_append {before after : List Char} (hbefore : ∀ c ∈ before, p c)
    (hafter : ∀ c ∈ after, p c) :
    trim p (before ++ cs ++ after) = trim p cs := by
  have hend (l : List Char) : (l ++ after).rdropWhile p = l.rdropWhile p := by
    rw [List.rdropWhile, List.reverse_append,
      List.dropWhile_append_of_pos fun c hc => hafter c (List.mem_reverse.mp hc), List.rdropWhile]
  rw [trim_eq_rdropWhile, trim_eq_rdropWhile, List.append_assoc,
    List.dropWhile_append_of_pos hbefore, List.dropWhile_append]
  split
  · next hempty =>
    have hnone : after.dropWhile p = [] := List.dropWhile_eq_nil_iff.mpr hafter
    rw [hnone, List.isEmpty_iff.mp hempty]
  · exact hend _

end Trim

end SearchSource.Text
