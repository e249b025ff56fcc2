import SearchSource.Proofs.Query.Meaning

/-! Several bounds of one kind on one attribute: only the last is kept. Main statement:
`bounds_kept_iff`, the exact condition under which a group loses no bound and the order of its
conditions does not matter. -/
namespace SearchSource

namespace Condition

def BoundHolds {Doc : Type} (I : Interpretation Doc) (d : Doc) (c : Condition) : Prop :=
  ∀ o, c.operator? = some o → o ≠ .equal → I.compares o d c.path c.value

end Condition

/-- The interpretation in which nothing fails but one comparison with one value. -/
def Interpretation.allBut (path : String) (o : FilterOperator) (v : Value) :
    Interpretation Unit where
  equal _ _ _ := True
  gt _ p w := ¬ (o = .greater ∧ p = path ∧ w = v)
  gte _ p w := ¬ (o = .greaterOrEqual ∧ p = path ∧ w = v)
  lt _ p w := ¬ (o = .less ∧ p = path ∧ w = v)
  lte _ p w := ¬ (o = .lessOrEqual ∧ p = path ∧ w = v)
  isId _ _ := True

theorem Interpretation.compares_allBut {a o : FilterOperator} (ha : a ≠ .equal) (path p : String)
    (v w : Value) : (allBut path o v).compares a () p w ↔ ¬ (o = a ∧ p = path ∧ w = v) := by
  cases a <;> first | rfl | exact absurd rfl ha

namespace Filter

variable {Doc : Type}

def GroupFinds (I : Interpretation Doc) (d : Doc) (g : List Condition) : Prop :=
  ∃ q, compileGroup g = .ok q ∧ Query.Finds (I.Leaf d) (q.map Query.toValue)

/-- No two bounds of one kind on one attribute differ. -/
def BoundsAgree (g : List Condition) : Prop :=
  ∀ c ∈ g, ∀ c' ∈ g, ∀ o, o ≠ .equal → c.operator? = some o → c'.operator? = some o →
    c.path = c'.path → c.value = c'.value

/-- Some test for equality lists no value, so that no document can hold. -/
def Unmatchable (g : List Condition) : Prop :=
  ((∃ c ∈ g, c.testsId) ∧ (idLists g).flatten = []) ∨
    ∃ c ∈ g, c.operator? = some .equal ∧ c.path ≠ idAttribute ∧ c.items = []

/-- All conditions of a group hold, the tests for documents taken together. -/
structure AllHold (I : Interpretation Doc) (d : Doc) (g : List Condition) : Prop where
  named : (∃ c ∈ g, c.testsId) → ∃ c ∈ g, c.testsId ∧ ∃ v ∈ c.items, I.isId d v
  equal : ∀ c ∈ g, c.operator? = some .equal → c.path ≠ idAttribute →
    ∃ v ∈ c.items, I.equal d c.path v
  bounds : ∀ c ∈ g, c.BoundHolds I d

theorem groupFinds_iff (I : Interpretation Doc) (d : Doc) {g : List Condition}
    (hs : ∀ c ∈ g, c.Supported) :
    GroupFinds I d g ↔ GroupHolds I d g := by
  obtain ⟨q, hq, -, hfinds⟩ := compileGroup_finds hs
  unfold GroupFinds
  constructor
  · rintro ⟨r, hr, hf⟩
    cases Except.ok.inj (hq.symm.trans hr)
    exact (hfinds I d).mp hf
  · exact fun h => ⟨q, hq, (hfinds I d).mpr h⟩

theorem mem_flatten_idLists {g : List Condition} {v : Value} :
    v ∈ (idLists g).flatten ↔ ∃ c ∈ g, c.testsId ∧ v ∈ c.items := by
  simp only [idLists, List.mem_flatten, List.mem_map, List.mem_filter]
  constructor
  · rintro ⟨_, ⟨c, ⟨hc, ht⟩, rfl⟩, hv⟩
    exact ⟨c, hc, ht, hv⟩
  · rintro ⟨c, hc, ht, hv⟩
    exact ⟨c.items, ⟨c, ⟨hc, ht⟩, rfl⟩, hv⟩

/-- Where bounds agree, the last one of a kind speaks for all. -/
theorem groupHolds_iff_allHold (I : Interpretation Doc) (d : Doc) {g : List Condition}
    (ha : BoundsAgree g) :
    GroupHolds I d g ↔ AllHold I d g := by
  have hid : (∃ v ∈ (idLists g).flatten, I.isId d v) ↔
      ∃ c ∈ g, c.testsId ∧ ∃ v ∈ c.items, I.isId d v := by
    simp only [mem_flatten_idLists]
    constructor
    · rintro ⟨v, ⟨c, hc, ht, hv⟩, hi⟩
      exact ⟨c, hc, ht, v, hv, hi⟩
    · rintro ⟨c, hc, ht, v, hv, hi⟩
      exact ⟨v, ⟨c, hc, ht, hv⟩, hi⟩
  constructor
  · intro h
    refine ⟨fun hn => hid.mp (h.named hn), h.equal, ?_⟩
    intro c hc o ho hne
    obtain ⟨v, hv⟩ := exists_lastTest? hc ho
    obtain ⟨c', hc', hp, ho', rfl⟩ := exists_of_lastTest? hv
    rw [ha c hc c' hc' o hne ho ho' hp.symm]
    exact h.last c.path o c'.value hne hv
  · intro h
    refine ⟨fun hn => hid.mpr (h.named hn), h.equal, ?_⟩
    intro path o v hne hv
    obtain ⟨c, hc, rfl, ho, rfl⟩ := exists_of_lastTest? hv
    exact h.bounds c hc o ho hne

theorem not_groupHolds_of_unmatchable (I : Interpretation Doc) (d : Doc) {g : List Condition}
    (hu : Unmatchable g) : ¬ GroupHolds I d g := by
  intro h
  rcases hu with ⟨hn, hnil⟩ | ⟨c, hc, ho, hid, hnil⟩
  · obtain ⟨v, hv, -⟩ := h.named hn
    rw [hnil] at hv
    cases hv
  · obtain ⟨v, hv, -⟩ := h.equal c hc ho hid
    rw [hnil] at hv
    cases hv

theorem AllHold.perm {I : Interpretation Doc} {d : Doc} {g g' : List Condition} (h : AllHold I d g)
    (hp : g.Perm g') : AllHold I d g' := by
  obtain ⟨hn, he, hb⟩ := h
  simp only [hp.mem_iff] at hn he hb
  exact ⟨hn, he, hb⟩

theorem BoundsAgree.perm {g g' : List Condition} (h : BoundsAgree g) (hp : g.Perm g') :
    BoundsAgree g' := by
  intro c hc c' hc'
  exact h c (hp.mem_iff.mpr hc) c' (hp.mem_iff.mpr hc')

theorem Unmatchable.perm {g g' : List Condition} (h : Unmatchable g) (hp : g.Perm g') :
    Unmatchable g' := by
  unfold Unmatchable at h ⊢
  simp only [List.eq_nil_iff_forall_not_mem, mem_flatten_idLists, hp.mem_iff] at h ⊢
  exact h

/-- If a bound differs from the last one of its kind, some interpretation lets all but this bound
hold. -/
theorem groupHolds_allBut {g : List Condition} (hu : ¬ Unmatchable g) {path : String}
    {o : FilterOperator} {v w : Value} (hv : lastTest? path o g = some v) (hne : w ≠ v) :
    GroupHolds (.allBut path o w) () g := by
  unfold Unmatchable at hu
  push Not at hu
  refine ⟨?_, ?_, ?_⟩
  · intro hn
    obtain ⟨x, hx⟩ := List.exists_mem_of_ne_nil _ (hu.1 hn)
    exact ⟨x, hx, trivial⟩
  · intro c hc ho hid
    obtain ⟨x, hx⟩ := List.exists_mem_of_ne_nil _ (hu.2 c hc ho hid)
    exact ⟨x, hx, trivial⟩
  · intro p a x ha hx
    rw [Interpretation.compares_allBut ha]
    rintro ⟨rfl, rfl, rfl⟩
    exact hne (Option.some.inj (hx.symm.trans hv))

/-- Bounds that do not agree: some condition's value is not that of the last of its kind. -/
theorem exists_lost_bound {g : List Condition} (ha : ¬ BoundsAgree g) :
    ∃ c ∈ g, ∃ o v, o ≠ .equal ∧ c.operator? = some o ∧
      lastTest? c.path o g = some v ∧ c.value ≠ v := by
  unfold BoundsAgree at ha
  push Not at ha
  obtain ⟨c, hc, c', hc', o, hne, ho, ho', hp, hval⟩ := ha
  obtain ⟨v, hv⟩ := exists_lastTest? hc ho
  by_cases hcv : c.value = v
  · exact ⟨c', hc', o, v, hne, ho', hp ▸ hv, fun he => hval (hcv.trans he.symm)⟩
  · exact ⟨c, hc, o, v, hne, ho, hv, hcv⟩

/-- A group of supported conditions loses no bound, and finds the same documents in any order,
exactly when its bounds of one kind on one attribute agree or nothing can match it. -/
theorem bounds_kept_iff (g : List Condition) (hs : ∀ c ∈ g, c.Supported) :
    (∃ q, compileGroup g = .ok q) ∧
    ((∀ {Doc : Type} (I : Interpretation Doc) (d : Doc),
      GroupFinds I d g → ∀ c ∈ g, c.BoundHolds I d) ↔
      BoundsAgree g ∨ Unmatchable g) ∧
    ((∀ g', g.Perm g' → ∀ {Doc : Type} (I : Interpretation Doc) (d : Doc),
        GroupFinds I d g ↔ GroupFinds I d g') ↔
      BoundsAgree g ∨ Unmatchable g) := by
  refine ⟨(compileGroup_finds hs).imp fun _ h => h.1, ⟨?_, ?_⟩, ⟨?_, ?_⟩⟩
  · intro hkeeps
    by_contra hno
    push Not at hno
    obtain ⟨c, hc, o, v, hne, ho, hv, hcv⟩ := exists_lost_bound hno.1
    have hfound := (groupFinds_iff _ () hs).mpr (groupHolds_allBut hno.2 hv hcv)
    have hlost := hkeeps _ () hfound c hc o ho hne
    exact (Interpretation.compares_allBut hne ..).mp hlost ⟨rfl, rfl, rfl⟩
  · rintro (ha | hu) Doc I d hfound
    · rw [groupFinds_iff I d hs, groupHolds_iff_allHold I d ha] at hfound
      exact hfound.bounds
    · exact absurd ((groupFinds_iff I d hs).mp hfound) (not_groupHolds_of_unmatchable I d hu)
  · intro horder
    by_contra hno
    push Not at hno
    obtain ⟨c, hc, o, v, hne, ho, hv, hcv⟩ := exists_lost_bound hno.1
    obtain ⟨l, r, rfl⟩ := List.append_of_mem hc
    -- Moved to the end, the lost bound is the one that counts.
    have hp : (l ++ c :: r).Perm (l ++ r ++ [c]) :=
      List.perm_middle.trans (List.perm_append_singleton c (l ++ r)).symm
    have hs' : ∀ a ∈ l ++ r ++ [c], a.Supported := fun a ha => hs a (hp.mem_iff.mpr ha)
    have hfound := (groupFinds_iff _ () hs).mpr (groupHolds_allBut hno.2 hv hcv)
    have hmoved := (groupFinds_iff _ () hs').mp ((horder _ hp _ ()).mp hfound)
    have hlast := hmoved.last c.path o c.value hne (by rw [lastTest?_snoc, if_pos ⟨rfl, ho⟩])
    exact (Interpretation.compares_allBut hne ..).mp hlast ⟨rfl, rfl, rfl⟩
  · intro h g' hp Doc I d
    have hs' : ∀ c ∈ g', c.Supported := fun c hc => hs c (hp.mem_iff.mpr hc)
    rw [groupFinds_iff I d hs, groupFinds_iff I d hs']
    rcases h with ha | hu
    · rw [groupHolds_iff_allHold I d ha, groupHolds_iff_allHold I d (ha.perm hp)]
      exact ⟨fun h => h.perm hp, fun h => h.perm hp.symm⟩
    · exact iff_of_false (not_groupHolds_of_unmatchable I d hu)
        (not_groupHolds_of_unmatchable I d (hu.perm hp))

def twoFloors : List Condition :=
  [⟨"price", .text "greater", .int 5⟩, ⟨"price", .text "greater", .int 1⟩]

theorem bounds_kept_iff_twoFloors :
    (∀ c ∈ twoFloors, c.Supported) ∧ (∃ q, compileGroup twoFloors = .ok q) ∧
    ((∀ {Doc : Type} (I : Interpretation Doc) (d : Doc),
        GroupFinds I d twoFloors → ∀ c ∈ twoFloors, c.BoundHolds I d) ↔
      BoundsAgree twoFloors ∨ Unmatchable twoFloors) ∧
    ((∀ g', twoFloors.Perm g' → ∀ {Doc : Type} (I : Interpretation Doc) (d : Doc),
        GroupFinds I d twoFloors ↔ GroupFinds I d g') ↔
      BoundsAgree twoFloors ∨ Unmatchable twoFloors) :=
  ⟨by decide, bounds_kept_iff twoFloors (by decide)⟩

def prices : Interpretation Int where
  equal p _ v := v = .int p
  gt p _ v := ∃ n, v = .int n ∧ n < p
  gte p _ v := ∃ n, v = .int n ∧ n ≤ p
  lt p _ v := ∃ n, v = .int n ∧ p < n
  lte p _ v := ∃ n, v = .int n ∧ p ≤ n
  isId _ _ := False

/-- The price 3 is found though it is not above 5, and is not found once the two bounds change
places. -/
theorem twoFloors_loses_a_bound :
    GroupFinds prices 3 twoFloors ∧ (¬ ∀ c ∈ twoFloors, c.BoundHolds prices 3) ∧
      twoFloors.Perm twoFloors.reverse ∧ ¬ GroupFinds prices 3 twoFloors.reverse := by
  have hone : prices.Leaf 3 (Clause.range "price" [(.above, .int 1)]).toValue := by
    rw [leaf_range]
    simp only [List.mem_singleton, Prod.mk.injEq, and_imp]
    rintro _ _ rfl rfl
    exact ⟨1, rfl, by decide⟩
  have hfive : ¬ prices.gt 3 "price" (.int 5) := by
    rintro ⟨n, hn, hlt⟩
    cases hn
    omega
  refine ⟨⟨_, rfl, ?_⟩, ?_, (List.reverse_perm _).symm, ?_⟩
  · exact (Query.matches_clause _ _).mpr hone
  · intro h
    exact hfive (h ⟨"price", .text "greater", .int 5⟩ (by simp [twoFloors])
      .greater rfl (by decide))
  · rintro ⟨q, hq, hf⟩
    have hr : compileGroup twoFloors.reverse =
      .ok (some (.clause (.range "price" [(.above, .int 5)]))) := rfl
    cases Except.ok.inj (hr.symm.trans hq)
    have hleaf := (leaf_range _ _ _ _).mp ((Query.matches_clause _ _).mp hf)
    exact hfive (hleaf .above (.int 5) (by simp))

end Filter
end SearchSource
