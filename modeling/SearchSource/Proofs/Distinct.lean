import Mathlib.Data.List.Induction
import Mathlib.Data.List.Nodup

/-! Texts without repetitions, each kept where it occurs first. Main statement:
`exists_first_of_eraseDups`, what stands before an entry comes from what stands before its first
occurrence. -/
namespace SearchSource

theorem eraseDups_snoc (l : List String) (a : String) :
    (l ++ [a]).eraseDups = if a ∈ l then l.eraseDups else l.eraseDups ++ [a] := by
  rw [List.eraseDups_append]
  by_cases h : a ∈ l <;> simp [List.removeAll, List.eraseDups_cons, h]

theorem nodup_eraseDups (l : List String) : l.eraseDups.Nodup := by
  induction l using List.reverseRecOn with
  | nil => exact List.nodup_nil
  | append_singleton l a ih =>
    rw [eraseDups_snoc]
    split
    · exact ih
    · next ha =>
      refine List.nodup_append.mpr ⟨ih, List.nodup_singleton a, fun b hb c hc => ?_⟩
      rw [List.mem_singleton.mp hc]
      rintro rfl
      exact ha (List.mem_eraseDups.mp hb)

theorem eraseDups_of_nodup {l : List String} (h : l.Nodup) : l.eraseDups = l := by
  induction l using List.reverseRecOn with
  | nil => rfl
  | append_singleton l a ih =>
    obtain ⟨hl, -, hdisjoint⟩ := List.nodup_append.mp h
    have ha : a ∉ l := fun hal => hdisjoint a hal a (List.mem_singleton_self a) rfl
    rw [eraseDups_snoc, if_neg ha, ih hl]

theorem eraseDups_filter (p : String → Bool) (l : List String) :
    (l.filter p).eraseDups = l.eraseDups.filter p := by
  induction l using List.reverseRecOn with
  | nil => rfl
  | append_singleton l a ih =>
    rw [eraseDups_snoc, List.filter_append]
    cases hp : p a with
    | false =>
      rw [List.filter_cons_of_neg (by simpa using hp), List.filter_nil, List.append_nil, ih]
      split
      · rfl
      · rw [List.filter_append, List.filter_cons_of_neg (by simpa using hp), List.filter_nil,
          List.append_nil]
    | true =>
      rw [List.filter_cons_of_pos hp, List.filter_nil, eraseDups_snoc, ih]
      simp only [List.mem_filter, hp, and_true]
      split
      · rfl
      · rw [List.filter_append, List.filter_cons_of_pos hp, List.filter_nil]

/-- Of two lists in turn, the second adds what the first does not have. -/
theorem eraseDups_append_eq (l m : List String) :
    (l ++ m).eraseDups = l.eraseDups ++ m.eraseDups.filter (· ∉ l.eraseDups) := by
  have hnew : m.removeAll l = m.filter (· ∉ l.eraseDups) := by
    unfold List.removeAll
    refine List.filter_congr fun a _ => ?_
    simp
  rw [List.eraseDups_append, hnew, eraseDups_filter]

theorem exists_first_of_eraseDups {l earlier later : List String} {a : String}
    (h : l.eraseDups = earlier ++ a :: later) :
    ∃ before after, l = before ++ a :: after ∧ before.eraseDups = earlier := by
  induction l using List.reverseRecOn generalizing later with
  | nil => simp at h
  | append_singleton l b ih =>
    rw [eraseDups_snoc] at h
    split at h
    · obtain ⟨before, after, hl, hbefore⟩ := ih h
      exact ⟨before, after ++ [b], by simp [hl], hbefore⟩
    · -- the last text is new: it is `a` itself, or `a` stands before it
      rcases List.eq_nil_or_concat later with rfl | ⟨later, c, rfl⟩
      · obtain ⟨hl, hb⟩ := List.append_inj' h rfl
        exact ⟨l, [], by rw [List.head_eq_of_cons_eq hb], hl⟩
      · rw [List.concat_eq_append, ← List.cons_append, ← List.append_assoc] at h
        obtain ⟨before, after, hl, hbefore⟩ := ih (List.append_inj' h rfl).1
        exact ⟨before, after ++ [b], by simp [hl], hbefore⟩

end SearchSource
