import SearchSource.Entries
import SearchSource.Proofs.Distinct

/-! Mappings with distinct keys: they are what is looked up in them, and merging known keys changes
values in place. -/
namespace SearchSource.Entries

variable {α : Type}

@[simp] theorem keys_nil : keys ([] : Entries α) = [] := rfl

@[simp] theorem keys_cons (k : String) (v : α) (es : Entries α) :
    keys ((k, v) :: es) = k :: keys es :=
  rfl

@[simp] theorem keys_append (es fs : Entries α) : keys (es ++ fs) = keys es ++ keys fs :=
  List.map_append

theorem keys_drop (key : String) (es : Entries α) :
    (es.drop key).keys = es.keys.filter (· ≠ key) := by
  simp only [keys, drop, List.filter_map]
  rfl

theorem lookup_cons_of_ne {k j : String} (h : k ≠ j) (v : α) (es : Entries α) :
    List.lookup k ((j, v) :: es) = es.lookup k := by
  rw [List.lookup_cons, beq_false_of_ne h]

theorem lookup_eq_none {k : String} {es : Entries α} : es.lookup k = none ↔ k ∉ es.keys := by
  induction es with
  | nil => simp
  | cons e rest ih =>
    obtain ⟨j, v⟩ := e
    by_cases h : k = j
    · simp [h]
    · simp [lookup_cons_of_ne h, h, ih]

theorem lookup_of_mem {es : Entries α} (h : es.keys.Nodup) {k : String} {v : α} (hm : (k, v) ∈ es) :
    es.lookup k = some v := by
  induction es with
  | nil => cases hm
  | cons e rest ih =>
    obtain ⟨j, w⟩ := e
    rw [keys_cons, List.nodup_cons] at h
    rcases List.mem_cons.mp hm with he | hr
    · cases he
      exact List.lookup_cons_self
    · have hne : k ≠ j := by
        rintro rfl
        exact h.1 (List.mem_map.mpr ⟨(k, v), hr, rfl⟩)
      rw [lookup_cons_of_ne hne]
      exact ih h.2 hr

theorem mem_of_lookup {es : Entries α} {k : String} {v : α} (h : es.lookup k = some v) :
    (k, v) ∈ es := by
  obtain ⟨l₁, l₂, rfl, -⟩ := List.lookup_eq_some_iff.mp h
  simp

/-- With distinct keys, a mapping is what is looked up under its keys. -/
theorem eq_map_of_lookup {es : Entries α} (h : es.keys.Nodup) {f : String → α}
    (hf : ∀ k ∈ es.keys, es.lookup k = some (f k)) : es = es.keys.map fun k => (k, f k) := by
  have he : ∀ e ∈ es, (e.1, f e.1) = e := by
    intro e hm
    have hk := hf e.1 (List.mem_map_of_mem hm)
    rw [lookup_of_mem h hm] at hk
    rw [← Option.some.inj hk]
  unfold keys
  rw [List.map_map]
  conv_lhs => rw [← List.map_id es]
  exact (List.map_congr_left he).symm

theorem lookup_map {β : Type} (f : String → α → β) (es : Entries α) (k : String) :
    (es.map fun e => (e.1, f e.1 e.2)).lookup k = (es.lookup k).map (f k) := by
  induction es with
  | nil => rfl
  | cons e rest ih =>
    obtain ⟨j, v⟩ := e
    by_cases h : k = j
    · simp [h]
    · rw [List.map_cons, lookup_cons_of_ne h, lookup_cons_of_ne h]
      exact ih

theorem put_of_not_mem {k : String} {es : Entries α} (h : k ∉ es.keys) (v : α) :
    es.put k v = es ++ [(k, v)] := by
  induction es with
  | nil => rfl
  | cons e rest ih =>
    obtain ⟨j, w⟩ := e
    rw [keys_cons, List.mem_cons, not_or] at h
    rw [put, if_neg (Ne.symm h.1), ih h.2, List.cons_append]

theorem put_of_mem {k : String} {es : Entries α} (hn : es.keys.Nodup) (h : k ∈ es.keys) (v : α) :
    es.put k v = es.map fun e => (e.1, if e.1 = k then v else e.2) := by
  induction es with
  | nil => cases h
  | cons e rest ih =>
    obtain ⟨j, w⟩ := e
    rw [keys_cons, List.nodup_cons] at hn
    rw [put, List.map_cons]
    by_cases hj : j = k
    · subst hj
      have hrest : rest.map (fun e => (e.1, if e.1 = j then v else e.2)) = rest := by
        conv_rhs => rw [← List.map_id rest]
        apply List.map_congr_left
        intro e he
        have hne : e.1 ≠ j := by
          rintro rfl
          exact hn.1 (List.mem_map_of_mem he)
        rw [if_neg hne]
        rfl
      rw [if_pos rfl, hrest, if_pos rfl]
    · have hk : k ∈ keys rest := (List.mem_cons.mp h).resolve_left (Ne.symm hj)
      rw [if_neg hj, if_neg hj, ih hn.2 hk]

/-- Merging entries under known keys changes values and nothing else. -/
theorem merge_eq_map {es new : Entries α} (hes : es.keys.Nodup) (hnew : new.keys.Nodup)
    (h : ∀ k ∈ new.keys, k ∈ es.keys) :
    es.merge new = es.map fun e => (e.1, (new.lookup e.1).getD e.2) := by
  induction new generalizing es with
  | nil => simp [merge]
  | cons e rest ih =>
    obtain ⟨k, v⟩ := e
    rw [keys_cons, List.nodup_cons] at hnew
    have hk : k ∈ es.keys := h k (by simp)
    have hput : (es.put k v).keys = es.keys := by rw [keys_put, if_pos hk]
    have hstep : es.merge ((k, v) :: rest) = (es.put k v).merge rest := rfl
    rw [hstep, ih (hput ▸ hes) hnew.2 fun j hj => hput ▸ h j (by simp [hj]), put_of_mem hes hk,
      List.map_map]
    apply List.map_congr_left
    intro e _
    by_cases he : e.1 = k
    · simp [he, lookup_eq_none.mpr hnew.1]
    · simp [lookup_cons_of_ne he, he]

theorem merge_of_disjoint {es new : Entries α} (hnew : new.keys.Nodup)
    (h : ∀ k ∈ new.keys, k ∉ es.keys) :
    es.merge new = es ++ new := by
  induction new generalizing es with
  | nil => exact (List.append_nil es).symm
  | cons e rest ih =>
    obtain ⟨k, v⟩ := e
    rw [keys_cons, List.nodup_cons] at hnew
    have hstep : es.merge ((k, v) :: rest) = (es ++ [(k, v)]).merge rest := by
      rw [← put_of_not_mem (h k (by simp)) v]
      rfl
    rw [hstep, ih hnew.2, List.append_assoc]
    · rfl
    · intro j hj
      have hne : j ≠ k := fun heq => hnew.1 (heq ▸ hj)
      simpa [hne] using h j (by simp [hj])

/-- A mapping takes the place of one with the same keys, and of the empty one. -/
theorem merge_of_keys_eq {es new : Entries α} (hnew : new.keys.Nodup)
    (h : es = [] ∨ es.keys = new.keys) :
    es.merge new = new := by
  rcases h with rfl | hkeys
  · exact merge_of_disjoint hnew (by simp)
  · rw [merge_eq_map (hkeys ▸ hnew) hnew fun k hk => hkeys ▸ hk]
    have hlength : es.length = new.length := by simpa [keys] using congrArg List.length hkeys
    refine List.ext_getElem (by simpa using hlength) fun i hi hi' => ?_
    have hkey : es[i].1 = new[i].1 := by
      simpa [keys] using List.getElem_of_eq hkeys (i := i) (by simpa [keys] using hi)
    have hvalue : new.lookup new[i].1 = some new[i].2 := lookup_of_mem hnew (List.getElem_mem hi')
    rw [List.getElem_map, hkey, hvalue]
    rfl

/-- The keys that have a value, with it. -/
def present (slots : Entries (Option α)) : Entries α :=
  slots.filterMap fun s => s.2.map fun v => (s.1, v)

theorem present_append (slots more : Entries (Option α)) :
    present (slots ++ more) = present slots ++ present more := List.filterMap_append

theorem mem_present {slots : Entries (Option α)} {k : String} {v : α} :
    (k, v) ∈ present slots ↔ (k, some v) ∈ slots := by
  simp only [present, List.mem_filterMap, Option.map_eq_some_iff, Prod.mk.injEq]
  constructor
  · rintro ⟨⟨j, o⟩, hm, w, rfl, rfl, rfl⟩
    exact hm
  · exact fun hm => ⟨(k, some v), hm, v, rfl, rfl, rfl⟩

theorem keys_present_sublist (slots : Entries (Option α)) :
    (present slots).keys.Sublist slots.keys := by
  induction slots with
  | nil => exact .slnil
  | cons s rest ih =>
    obtain ⟨k, o⟩ := s
    cases o with
    | none => exact ih.cons k
    | some v => exact ih.cons_cons k

theorem lookup_present {slots : Entries (Option α)} (h : slots.keys.Nodup) (k : String) :
    (present slots).lookup k = (slots.lookup k).join := by
  have hp : (present slots).keys.Nodup := (keys_present_sublist slots).nodup h
  cases hs : slots.lookup k with
  | none =>
    exact lookup_eq_none.mpr fun hk => lookup_eq_none.mp hs ((keys_present_sublist slots).mem hk)
  | some o =>
    have hm := mem_of_lookup hs
    cases o with
    | some v => exact lookup_of_mem hp (mem_present.mpr hm)
    | none =>
      refine lookup_eq_none.mpr fun hk => ?_
      obtain ⟨⟨j, v⟩, hv, rfl⟩ := List.mem_map.mp hk
      cases (lookup_of_mem h (mem_present.mp hv)).symm.trans hs

theorem lookup_merge_of_nodup {new : Entries α} (hnew : new.keys.Nodup) (es : Entries α)
    (k : String) :
    (es.merge new).lookup k = (new.lookup k).or (es.lookup k) := by
  have hkeys : keys new.reverse = (keys new).reverse := List.map_reverse
  have hrev : (keys new.reverse).Nodup := hkeys ▸ List.nodup_reverse.mpr hnew
  have hlookup : new.reverse.lookup k = new.lookup k := by
    cases hk : new.lookup k with
    | some v => exact lookup_of_mem hrev (List.mem_reverse.mpr (mem_of_lookup hk))
    | none =>
      rw [lookup_eq_none, hkeys, List.mem_reverse]
      exact lookup_eq_none.mp hk
  rw [lookup_merge, hlookup]

theorem lookup_merge_of_lookup {es new : Entries α} (hnew : new.keys.Nodup) {k : String} {v : α}
    (h : new.lookup k = some v) : (es.merge new).lookup k = some v := by
  rw [lookup_merge_of_nodup hnew, h, Option.some_or]

theorem forall_mem_put {P : String × α → Prop} {es : Entries α} (h : ∀ e ∈ es, P e) {k : String}
    {v : α} (hv : P (k, v)) : ∀ e ∈ es.put k v, P e := by
  induction es with
  | nil => simpa [put] using hv
  | cons e rest ih =>
    obtain ⟨j, w⟩ := e
    obtain ⟨hj, hrest⟩ := List.forall_mem_cons.mp h
    rw [put]
    split
    · next heq =>
      have hj' : P (j, v) := heq ▸ hv
      exact List.forall_mem_cons.mpr ⟨hj', hrest⟩
    · exact List.forall_mem_cons.mpr ⟨hj, ih hrest⟩

theorem forall_mem_merge {P : String × α → Prop} {es new : Entries α} (h : ∀ e ∈ es, P e)
    (hnew : ∀ e ∈ new, P e) :
    ∀ e ∈ es.merge new, P e := by
  induction new generalizing es with
  | nil => exact h
  | cons e rest ih =>
    obtain ⟨he, hrest⟩ := List.forall_mem_cons.mp hnew
    have hstep : es.merge (e :: rest) = (es.put e.1 e.2).merge rest := rfl
    rw [hstep]
    exact ih (forall_mem_put h he) hrest

theorem mem_keys_put {k j : String} {v : α} {es : Entries α} :
    j ∈ (es.put k v).keys ↔ j = k ∨ j ∈ es.keys := by
  rw [keys_put]
  split
  · next hk =>
    constructor
    · exact .inr
    · rintro (rfl | hj)
      · exact hk
      · exact hj
  · rw [List.mem_append, List.mem_singleton, or_comm]

/-- Of two keys one that is there keeps its place, so that it does not matter which is put first. -/
theorem put_comm {k j : String} (hne : k ≠ j) {es : Entries α} (hk : k ∈ es.keys) (v w : α) :
    (es.put j w).put k v = (es.put k v).put j w := by
  induction es with
  | nil => cases hk
  | cons e rest ih =>
    obtain ⟨i, u⟩ := e
    by_cases hi : i = k
    · subst hi
      simp [put, hne]
    · have hrest : k ∈ keys rest := (List.mem_cons.mp hk).resolve_left (Ne.symm hi)
      by_cases hj : i = j
      · subst hj
        simp [put, hi]
      · simp [put, hi, hj, ih hrest]

theorem put_merge {k : String} {es new : Entries α} (hk : k ∈ es.keys) (hnew : k ∉ new.keys)
    (v : α) :
    (es.merge new).put k v = (es.put k v).merge new := by
  induction new generalizing es with
  | nil => rfl
  | cons e rest ih =>
    obtain ⟨j, w⟩ := e
    rw [keys_cons, List.mem_cons, not_or] at hnew
    have hput : k ∈ (es.put j w).keys := mem_keys_put.mpr (.inr hk)
    calc (es.merge ((j, w) :: rest)).put k v
      _ = ((es.put j w).merge rest).put k v := rfl
      _ = ((es.put j w).put k v).merge rest := ih hput hnew.2
      _ = ((es.put k v).put j w).merge rest := by rw [put_comm hnew.1 hk]
      _ = (es.put k v).merge ((j, w) :: rest) := rfl

theorem merge_put {es new : Entries α} (hnew : new.keys.Nodup) (k : String) (v : α) :
    es.merge (new.put k v) = (es.merge new).put k v := by
  induction new generalizing es with
  | nil => rfl
  | cons e rest ih =>
    obtain ⟨j, w⟩ := e
    rw [keys_cons, List.nodup_cons] at hnew
    by_cases hj : j = k
    · subst hj
      have hmem : j ∈ (es.put j w).keys := mem_keys_put.mpr (.inl rfl)
      have hstep : es.merge (put j v ((j, w) :: rest)) = (es.put j v).merge rest := by
        simp [put, merge]
      have hrest : es.merge ((j, w) :: rest) = (es.put j w).merge rest := rfl
      rw [hstep, hrest, put_merge hmem hnew.1, put_put]
    · have hstep : es.merge (put k v ((j, w) :: rest)) = (es.put j w).merge (put k v rest) := by
        simp [put, hj, merge]
      rw [hstep, ih hnew.2]
      rfl

theorem nodup_keys_merge {es : Entries α} (h : es.keys.Nodup) (new : Entries α) :
    (es.merge new).keys.Nodup := by
  induction new generalizing es with
  | nil => exact h
  | cons e rest ih => exact ih (nodup_keys_put h e.1 e.2)

theorem ofList_snoc (es : Entries α) (k : String) (v : α) :
    ofList (es ++ [(k, v)]) = (ofList es).put k v :=
  List.foldl_concat ..

theorem nodup_keys_ofList (es : Entries α) : (ofList es).keys.Nodup :=
  nodup_keys_merge (show (keys []).Nodup from List.nodup_nil) es

/-- A key stands where it came first. -/
theorem keys_ofList (es : Entries α) : (ofList es).keys = es.keys.eraseDups := by
  induction es using List.reverseRecOn with
  | nil => rfl
  | append_singleton es e ih =>
    obtain ⟨k, v⟩ := e
    rw [ofList_snoc, keys_put, ih, keys_append, keys_cons, keys_nil, eraseDups_snoc]
    simp only [List.mem_eraseDups]

/-- The entry that came last counts. -/
theorem lookup_ofList (k : String) (es : Entries α) :
    (ofList es).lookup k = es.reverse.lookup k := by
  rw [ofList, lookup_merge, List.lookup_nil, Option.or_none]

theorem ofList_of_nodup {es : Entries α} (h : es.keys.Nodup) : ofList es = es :=
  merge_of_disjoint h (by simp)

/-- What a mapping made of entries adds, the entries add one by one. -/
theorem merge_ofList (es new : Entries α) : es.merge (ofList new) = es.merge new := by
  induction new using List.reverseRecOn with
  | nil => rfl
  | append_singleton new e ih =>
    obtain ⟨k, v⟩ := e
    have hsnoc : es.merge (new ++ [(k, v)]) = (es.merge new).put k v := List.foldl_concat ..
    rw [ofList_snoc, merge_put (nodup_keys_ofList new), ih, hsnoc]

theorem ofList_merge_self (es : Entries α) : (ofList es).merge es = ofList es := by
  calc (ofList es).merge es
    _ = (ofList es).merge (ofList es) := (merge_ofList _ es).symm
    _ = ofList es := merge_of_keys_eq (nodup_keys_ofList es) (.inr rfl)

section MapKeys

variable {f : String → String} (hf : Function.Injective f)

include hf

theorem map_put (k : String) (v : α) (es : Entries α) :
    (es.put k v).map (fun e => (f e.1, e.2)) = put (f k) v (es.map fun e => (f e.1, e.2)) := by
  induction es with
  | nil => rfl
  | cons e rest ih =>
    obtain ⟨j, w⟩ := e
    by_cases hj : j = k
    · simp [put, hj]
    · simp [put, hj, hf.ne hj, ih]

/-- Keys that are told apart may be renamed before or after. -/
theorem map_ofList (es : Entries α) :
    (ofList es).map (fun e => (f e.1, e.2)) = ofList (es.map fun e => (f e.1, e.2)) := by
  induction es using List.reverseRecOn with
  | nil => rfl
  | append_singleton es e ih =>
    obtain ⟨k, v⟩ := e
    rw [ofList_snoc, map_put hf, ih, List.map_append, List.map_singleton, ofList_snoc]

end MapKeys

theorem map_put_value {β : Type} (f : α → β) (k : String) (v : α) (es : Entries α) :
    (es.put k v).map (fun e => (e.1, f e.2)) = put k (f v) (es.map fun e => (e.1, f e.2)) := by
  induction es with
  | nil => rfl
  | cons e rest ih =>
    by_cases he : e.1 = k
    · simp [put, he]
    · simp [put, he, ih]

theorem put_append_cons {k : String} {before : Entries α} (hk : k ∉ before.keys) (v w : α)
    (after : Entries α) :
    put k w (before ++ (k, v) :: after) = before ++ (k, w) :: after := by
  induction before with
  | nil => simp [put]
  | cons e rest ih =>
    obtain ⟨j, u⟩ := e
    rw [keys_cons, List.mem_cons, not_or] at hk
    rw [List.cons_append, put, if_neg (Ne.symm hk.1), ih hk.2, List.cons_append]

theorem drop_of_not_mem {k : String} {es : Entries α} (h : k ∉ es.keys) : es.drop k = es := by
  refine List.filter_eq_self.mpr fun e he => ?_
  have hne : e.1 ≠ k := fun heq => h (heq ▸ List.mem_map_of_mem he)
  simpa using hne

/-- An entry that is put in stands between others, and they are all there is without it. -/
theorem exists_put_eq {es : Entries α} (h : es.keys.Nodup) (k : String) (v : α) :
    ∃ before after : Entries α,
      es.put k v = before ++ (k, v) :: after ∧ es.drop k = before ++ after ∧ k ∉ after.keys := by
  by_cases hk : k ∈ es.keys
  · obtain ⟨⟨j, w⟩, he, hj⟩ := List.mem_map.mp hk
    obtain rfl : k = j := hj.symm
    obtain ⟨before, after, rfl⟩ := List.append_of_mem he
    rw [keys_append, keys_cons, List.nodup_append, List.nodup_cons] at h
    obtain ⟨-, ⟨hafter, -⟩, hdisjoint⟩ := h
    have hbefore : k ∉ keys before := fun hm => hdisjoint k hm k List.mem_cons_self rfl
    refine ⟨before, after, put_append_cons hbefore w v after, ?_, hafter⟩
    have hsplit : drop k (before ++ (k, w) :: after) = drop k before ++ drop k after := by
      simp [drop]
    rw [hsplit, drop_of_not_mem hbefore, drop_of_not_mem hafter]
  · exact ⟨es, [], put_of_not_mem hk v, by rw [drop_of_not_mem hk, List.append_nil], by simp⟩

theorem filter_put {p : String → Bool} {k : String} (hk : p k) (v : α) (es : Entries α) :
    (es.put k v).filter (fun e => p e.1) = put k v (es.filter fun e => p e.1) := by
  induction es with
  | nil => simp [put, hk]
  | cons e rest ih =>
    obtain ⟨j, w⟩ := e
    by_cases hj : j = k
    · simp [put, hj, hk]
    · by_cases hp : p j
      · simp [put, hj, hp, ih]
      · simp [put, hj, hp, ih]

end SearchSource.Entries
