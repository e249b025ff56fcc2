import SearchSource.Proofs.Query.Clauses

/-! Which documents a filter asks for, and which a query finds. Main statement:
`compile_finds_what_is_asked`. -/
namespace SearchSource

/-- What decides the parts of a query for a document. -/
structure Interpretation (Doc : Type) where
  equal : Doc → String → Value → Prop
  gt : Doc → String → Value → Prop
  gte : Doc → String → Value → Prop
  lt : Doc → String → Value → Prop
  lte : Doc → String → Value → Prop
  /-- Whether a value is the document's own name. -/
  isId : Doc → Value → Prop

namespace Interpretation

variable {Doc : Type}

def compares (I : Interpretation Doc) : FilterOperator → Doc → String → Value → Prop
  | .equal => I.equal
  | .greater => I.gt
  | .greaterOrEqual => I.gte
  | .less => I.lt
  | .lessOrEqual => I.lte

def Within (I : Interpretation Doc) (d : Doc) (path : String) : String × Value → Prop
  | ("gt", v) => I.gt d path v
  | ("gte", v) => I.gte d path v
  | ("lt", v) => I.lt d path v
  | ("lte", v) => I.lte d path v
  | _ => False

/-- A query without parts: some listed value, or all bounds of a range. -/
def Leaf (I : Interpretation Doc) (d : Doc) : Value → Prop
  | .object [("ids", .object [("values", .list vs)])] => ∃ v ∈ vs, I.isId d v
  | .object [("terms", .object [(path, .list vs)])] => ∃ v ∈ vs, I.equal d path v
  | .object [("term", .object [(path, v)])] => I.equal d path v
  | .object [("range", .object [(path, .object bounds)])] => ∀ b ∈ bounds, I.Within d path b
  | _ => False

end Interpretation

namespace Query

mutual

/-- Whether a query in the engine's language holds, all of its parts or some, over a reading of the
leaves. -/
def Matches (leaf : Value → Prop) : Value → Prop
  | .object [("bool", .object [("must", .list parts)])] => MatchesAll leaf parts
  | .object [("bool", .object [("should", .list parts)])] => MatchesSome leaf parts
  | v => leaf v

def MatchesAll (leaf : Value → Prop) : List Value → Prop
  | [] => True
  | v :: vs => Matches leaf v ∧ MatchesAll leaf vs

def MatchesSome (leaf : Value → Prop) : List Value → Prop
  | [] => False
  | v :: vs => Matches leaf v ∨ MatchesSome leaf vs

end

/-- A missing query restricts nothing. -/
def Finds (leaf : Value → Prop) : Option Value → Prop
  | none => True
  | some v => Matches leaf v

theorem matchesAll_toValues (leaf : Value → Prop) (qs : List Query) :
    MatchesAll leaf (toValues qs) ↔ ∀ q ∈ qs, Matches leaf q.toValue := by
  induction qs with
  | nil => simp [toValues, MatchesAll]
  | cons q qs ih => simp [toValues, MatchesAll, ih]

theorem matchesSome_toValues (leaf : Value → Prop) (qs : List Query) :
    MatchesSome leaf (toValues qs) ↔ ∃ q ∈ qs, Matches leaf q.toValue := by
  induction qs with
  | nil => simp [toValues, MatchesSome]
  | cons q qs ih => simp [toValues, MatchesSome, ih]

theorem matches_clause (leaf : Value → Prop) (c : Clause) :
    Matches leaf (clause c).toValue ↔ leaf c.toValue := by
  cases c <;> simp [toValue, Clause.toValue, Matches]

theorem matches_must (leaf : Value → Prop) (qs : List Query) :
    Matches leaf (must qs).toValue ↔ ∀ q ∈ qs, Matches leaf q.toValue := by
  rw [toValue, Matches, matchesAll_toValues]

theorem matches_should (leaf : Value → Prop) (qs : List Query) :
    Matches leaf (should qs).toValue ↔ ∃ q ∈ qs, Matches leaf q.toValue := by
  rw [toValue, Matches, matchesSome_toValues]

theorem combine_eq_none (join : List Query → Query) (qs : List Query) :
    combine join qs = none ↔ qs = [] := by
  match qs with
  | [] | [_] | _ :: _ :: _ => simp [combine]

/-- Leaving out the wrapper of a single part changes nothing. -/
theorem finds_combine_must (leaf : Value → Prop) (qs : List Query) :
    Finds leaf ((combine must qs).map toValue) ↔ ∀ q ∈ qs, Matches leaf q.toValue := by
  match qs with
  | [] => simp [combine, Finds]
  | [q] => simp [combine, Finds]
  | q :: r :: rest =>
    simp only [combine, Option.map_some, Finds]
    exact matches_must leaf _

theorem finds_combine_should (leaf : Value → Prop) (qs : List Query) :
    Finds leaf ((combine should qs).map toValue) ↔ qs = [] ∨ ∃ q ∈ qs, Matches leaf q.toValue := by
  match qs with
  | [] => simp [combine, Finds]
  | [q] => simp [combine, Finds]
  | q :: r :: rest =>
    simp only [combine, Option.map_some, Finds, List.cons_ne_nil, false_or]
    exact matches_should leaf _

end Query

namespace Filter

variable {Doc : Type}

/-- What a group of conditions asks of a document. Of several bounds of one kind only the last
counts. -/
structure GroupHolds (I : Interpretation Doc) (d : Doc) (g : List Condition) : Prop where
  named : (∃ c ∈ g, c.testsId) → ∃ v ∈ (idLists g).flatten, I.isId d v
  equal : ∀ c ∈ g, c.operator? = some .equal → c.path ≠ idAttribute →
    ∃ v ∈ c.items, I.equal d c.path v
  last : ∀ path o v, o ≠ .equal → lastTest? path o g = some v → I.compares o d path v

/-- A filter holds when it says nothing, or one of the groups that say something does. -/
def Holds (I : Interpretation Doc) (d : Doc) (e : FilterExpression) : Prop :=
  (∀ g ∈ e, g = []) ∨ ∃ g ∈ e, g ≠ [] ∧ GroupHolds I d g

theorem lastTest?_filter (path : String) (o : FilterOperator) (g : List Condition) (a : String) :
    lastTest? path o (g.filter (·.path = a)) = if path = a then lastTest? path o g else none := by
  induction g using List.reverseRecOn with
  | nil => simp [lastTest?]
  | append_singleton g c ih =>
    rw [List.filter_append, lastTest?_snoc]
    by_cases hc : c.path = a
    · rw [List.filter_singleton, decide_eq_true hc, cond_true, lastTest?_snoc, ih]
      grind
    · simp only [List.filter_singleton, decide_eq_false hc, cond_false, List.append_nil, ih]
      grind

theorem idLists_filter (g : List Condition) (a : String) :
    idLists (g.filter (·.path = a)) = if a = idAttribute then idLists g else [] := by
  induction g with
  | nil => simp [idLists]
  | cons c g ih =>
    unfold idLists at ih ⊢
    by_cases hc : c.path = a <;> grind [Condition.testsId]

/-- A group holds when its conditions on each attribute do. -/
theorem groupHolds_iff_forall_path (I : Interpretation Doc) (d : Doc) (g : List Condition) :
    GroupHolds I d g ↔ ∀ path ∈ g.map (·.path), GroupHolds I d (g.filter (·.path = path)) := by
  constructor
  · intro h path _
    refine ⟨?_, ?_, ?_⟩
    · rintro ⟨c, hc, ht⟩
      have hid : path = idAttribute := by
        have hp := (List.mem_filter.mp hc).2
        simp_all [Condition.testsId]
      rw [idLists_filter, if_pos hid]
      exact h.named ⟨c, List.mem_of_mem_filter hc, ht⟩
    · exact fun c hc => h.equal c (List.mem_of_mem_filter hc)
    · intro p o v ho hv
      rw [lastTest?_filter] at hv
      split at hv
      · exact h.last p o v ho hv
      · cases hv
  · intro h
    have hpart (c : Condition) (hc : c ∈ g) : GroupHolds I d (g.filter (·.path = c.path)) :=
      h c.path (List.mem_map_of_mem hc)
    refine ⟨?_, ?_, ?_⟩
    · rintro ⟨c, hc, ht⟩
      have hid : c.path = idAttribute := by simp_all [Condition.testsId]
      have hn := (hpart c hc).named ⟨c, by simp [hc], ht⟩
      rwa [idLists_filter, if_pos hid] at hn
    · intro c hc
      exact (hpart c hc).equal c (by simp [hc])
    · intro p o v ho hv
      obtain ⟨c, hc, rfl, -, -⟩ := exists_of_lastTest? hv
      apply (hpart c hc).last c.path o v ho
      rw [lastTest?_filter, if_pos rfl, hv]

theorem within_key (I : Interpretation Doc) (d : Doc) (path : String) (b : Bound) (v : Value) :
    I.Within d path (b.key, v) ↔ I.compares b.operator d path v := by
  cases b <;> rfl

theorem leaf_range (I : Interpretation Doc) (d : Doc) (path : String)
    (bounds : List (Bound × Value)) :
    I.Leaf d (Clause.range path bounds).toValue ↔
      ∀ b v, (b, v) ∈ bounds → I.compares b.operator d path v := by
  simp only [Clause.toValue, Interpretation.Leaf, Clause.boundEntries, List.forall_mem_map,
    within_key, Prod.forall]

theorem leaf_equality (I : Interpretation Doc) (d : Doc) {c : Condition} {e : Clause}
    (he : c.equality? = some e) : I.Leaf d e.toValue ↔ ∃ v ∈ c.items, I.equal d c.path v := by
  unfold Condition.equality? at he
  split at he
  · cases hv : c.value.asSequence? with
    | some vs =>
      rw [hv] at he
      cases Option.some.inj he
      simp [Clause.toValue, Interpretation.Leaf, Condition.items, hv]
    | none =>
      rw [hv] at he
      cases Option.some.inj he
      simp [Clause.toValue, Interpretation.Leaf, Condition.items, hv]
  · cases he

theorem forall_mem_clauses (P : Clause → Prop) (out : List Clause) :
    (∀ c ∈ out, P c) ↔ (∀ vs ∈ out.filterMap Clause.ids?, P (.ids vs)) ∧
      (∀ c ∈ out.filter Clause.isEquality, P c) ∧
      ∀ r ∈ out.filterMap Clause.range?, P (.range r.1 r.2) := by
  constructor
  · intro h
    refine ⟨?_, fun c hc => h c (List.mem_of_mem_filter hc), ?_⟩
    · intro vs hvs
      obtain ⟨c, hc, he⟩ := List.mem_filterMap.mp hvs
      cases c <;> cases he
      exact h _ hc
    · intro r hr
      obtain ⟨c, hc, he⟩ := List.mem_filterMap.mp hr
      cases c <;> cases he
      exact h _ hc
  · rintro ⟨hids, hequal, hrange⟩ c hc
    cases c with
    | ids vs => exact hids vs (List.mem_filterMap.mpr ⟨_, hc, rfl⟩)
    | terms path vs => exact hequal _ (List.mem_filter.mpr ⟨hc, rfl⟩)
    | term path v => exact hequal _ (List.mem_filter.mpr ⟨hc, rfl⟩)
    | range path bounds => exact hrange (path, bounds) (List.mem_filterMap.mpr ⟨_, hc, rfl⟩)

theorem Tally.matches_iff (I : Interpretation Doc) (d : Doc) {path : String} {cs : List Condition}
    {out : List Clause} (h : Tally path cs out) (hp : ∀ c ∈ cs, c.path = path) :
    (∀ c ∈ out, I.Leaf d c.toValue) ↔ GroupHolds I d cs := by
  have hids : (∀ vs ∈ out.filterMap Clause.ids?, I.Leaf d (Clause.ids vs).toValue) ↔
      ((∃ c ∈ cs, c.testsId) → ∃ v ∈ (idLists cs).flatten, I.isId d v) := by
    have hne : idLists cs ≠ [] ↔ ∃ c ∈ cs, c.testsId := by simp [idLists]
    rw [h.ids, ← hne]
    split <;> simp_all [Clause.toValue, Interpretation.Leaf]
  have heq : (∀ c ∈ out.filter Clause.isEquality, I.Leaf d c.toValue) ↔
      ∀ c ∈ cs, c.operator? = some .equal → c.path ≠ idAttribute →
        ∃ v ∈ c.items, I.equal d c.path v := by
    have hsome (c : Condition) :
        c.equality?.isSome ↔ c.operator? = some .equal ∧ c.path ≠ idAttribute := by
      simp [Condition.equality?]
    rw [h.equalities]
    constructor
    · intro hall c hc ho hid
      obtain ⟨e, he⟩ := Option.isSome_iff_exists.mp ((hsome c).mpr ⟨ho, hid⟩)
      exact (leaf_equality I d he).mp (hall e (List.mem_filterMap.mpr ⟨c, hc, he⟩))
    · intro hall e he
      obtain ⟨c, hc, hce⟩ := List.mem_filterMap.mp he
      obtain ⟨ho, hid⟩ := (hsome c).mp (by simp [hce])
      exact (leaf_equality I d hce).mpr (hall c hc ho hid)
  have hranges : (∀ r ∈ out.filterMap Clause.range?, I.Leaf d (Clause.range r.1 r.2).toValue) ↔
      ∀ b v, (b, v) ∈ boundsOf cs → I.compares b.operator d path v := by
    rw [h.ranges]
    split
    · next he => simp [he]
    · simp only [List.mem_singleton, forall_eq, leaf_range]
  have hlast : (∀ b v, (b, v) ∈ boundsOf cs → I.compares b.operator d path v) ↔
      ∀ p o v, o ≠ .equal → lastTest? p o cs = some v → I.compares o d p v := by
    constructor
    · intro hall p o v ho hv
      have hb : o.bound? ≠ none := fun hn => ho ((FilterOperator.bound?_eq_none o).mp hn)
      obtain ⟨b, hb⟩ := Option.ne_none_iff_exists'.mp hb
      cases (FilterOperator.bound?_eq_some o b).mp hb
      have hpath : p = path := by
        by_contra hne
        have hcs : cs.filter (·.path = path) = cs :=
          List.filter_eq_self.mpr fun c hc => by simp [hp c hc]
        rw [← hcs, lastTest?_filter, if_neg hne] at hv
        cases hv
      subst hpath
      exact hall b v ((mem_boundsOf hp b v).mpr hv)
    · intro hall b v hv
      exact hall path b.operator v (by cases b <;> simp [Bound.operator])
        ((mem_boundsOf hp b v).mp hv)
  rw [forall_mem_clauses, hids, heq, hranges, hlast]
  constructor
  · intro h
    exact ⟨h.1, h.2.1, h.2.2⟩
  · intro hg
    exact ⟨hg.named, hg.equal, hg.last⟩

theorem forall_mem_flatten_iff (I : Interpretation Doc) (d : Doc)
    {groups : Entries (List Condition)} {outs : List (List Clause)}
    (h : List.Forall₂ (fun e out => Tally e.1 e.2 out) groups outs)
    (hp : ∀ e ∈ groups, ∀ c ∈ e.2, c.path = e.1) :
    (∀ c ∈ outs.flatten, I.Leaf d c.toValue) ↔ ∀ e ∈ groups, GroupHolds I d e.2 := by
  induction h with
  | nil => simp
  | cons ht _ ih =>
    rw [List.flatten_cons, List.forall_mem_append, List.forall_mem_cons,
      ht.matches_iff I d (hp _ (by simp)), ih fun e he => hp e (by simp [he])]

/-- A group of supported conditions has a query that finds what it asks for, none if it asks for
nothing. -/
theorem compileGroup_finds {g : List Condition} (hs : ∀ c ∈ g, c.Supported) :
    ∃ q, compileGroup g = .ok q ∧ (q = none ↔ g = []) ∧
      ∀ {Doc : Type} (I : Interpretation Doc) (d : Doc),
        Query.Finds (I.Leaf d) (q.map Query.toValue) ↔ GroupHolds I d g := by
  have hp : ∀ e ∈ byAttribute g, ∀ c ∈ e.2, c.path = e.1 := by
    intro e he c hc
    rw [(mem_byAttribute.mp he).2] at hc
    simpa using (List.mem_filter.mp hc).2
  have hs' : ∀ e ∈ byAttribute g, ∀ c ∈ e.2, c.Supported := by
    intro e he c hc
    rw [(mem_byAttribute.mp he).2] at hc
    exact hs c (List.mem_of_mem_filter hc)
  obtain ⟨outs, houts, ht⟩ := groupClauses_tally hp hs'
  refine ⟨Query.combine .must (outs.flatten.map .clause), ?_, ?_, ?_⟩
  · unfold compileGroup
    rw [houts]
    rfl
  · rw [Query.combine_eq_none, List.map_eq_nil_iff]
    constructor
    · intro hnil
      by_contra hne
      obtain ⟨c, hc⟩ := List.exists_mem_of_ne_nil g hne
      have he : (c.path, g.filter (·.path = c.path)) ∈ byAttribute g :=
        mem_byAttribute.mpr ⟨List.mem_map_of_mem hc, rfl⟩
      have := eq_nil_of_flatten_eq_nil ht hs' hnil _ he
      simpa using List.filter_eq_nil_iff.mp this c hc
    · rintro rfl
      cases ht
      rfl
  · intro Doc I d
    rw [Query.finds_combine_must, List.forall_mem_map]
    simp only [Query.matches_clause]
    rw [forall_mem_flatten_iff I d ht hp, groupHolds_iff_forall_path, byAttribute_eq,
      List.forall_mem_map]
    simp only [List.mem_eraseDups]

/-- The queries of all groups, one for each that says something. -/
theorem compileGroups_finds {e : FilterExpression} (hs : ∀ g ∈ e, ∀ c ∈ g, c.Supported) :
    ∃ qs, compileGroups e = .ok qs ∧ (qs = [] ↔ ∀ g ∈ e, g = []) ∧
      ∀ {Doc : Type} (I : Interpretation Doc) (d : Doc),
        (∃ q ∈ qs, Query.Matches (I.Leaf d) q.toValue) ↔ ∃ g ∈ e, g ≠ [] ∧ GroupHolds I d g := by
  induction e with
  | nil => exact ⟨[], rfl, by simp, by simp⟩
  | cons g gs ih =>
    obtain ⟨q, hq, hnone, hfinds⟩ := compileGroup_finds (hs g (by simp))
    obtain ⟨qs, hqs, hnil, hmatch⟩ := ih fun a ha => hs a (by simp [ha])
    refine ⟨q.toList ++ qs, ?_, ?_, ?_⟩
    · unfold compileGroups
      rw [hq, hqs]
      rfl
    · simp [hnil, hnone]
    · intro Doc I d
      have hg := hfinds I d
      cases q with
      | none =>
        have hempty : g = [] := hnone.mp rfl
        simp [hempty, hmatch]
      | some q =>
        have hne : g ≠ [] := fun he => by cases hnone.mpr he
        simp only [Option.map_some, Query.Finds] at hg
        simp [hne, hg, hmatch]

/-- A filter of supported conditions compiles, and its query finds exactly the documents it asks
for. -/
theorem compile_finds_what_is_asked (e : FilterExpression) (hs : ∀ g ∈ e, ∀ c ∈ g, c.Supported) :
    ∃ q, compile e = .ok q ∧ ∀ {Doc : Type} (I : Interpretation Doc) (d : Doc),
      Query.Finds (I.Leaf d) (q.map Query.toValue) ↔ Holds I d e := by
  obtain ⟨qs, hqs, hnil, hmatch⟩ := compileGroups_finds hs
  refine ⟨Query.combine .should qs, ?_, ?_⟩
  · unfold compile
    rw [hqs]
    rfl
  · intro Doc I d
    rw [Query.finds_combine_should, hnil, hmatch, Holds]

/-- An empty group, and one in which documents are named twice and a bound is set again. -/
def mixedFilter : FilterExpression :=
  [[], [⟨"_id", .text "equal", .list [.int 1, .int 2]⟩, ⟨"price", .text "greater", .int 5⟩,
    ⟨"_id", .constant (.operator .equal), .int 3⟩, ⟨"price", .text "greater", .int 1⟩]]

theorem compile_finds_mixedFilter :
    (∀ g ∈ mixedFilter, ∀ c ∈ g, c.Supported) ∧
      ∃ q, compile mixedFilter = .ok q ∧ ∀ {Doc : Type} (I : Interpretation Doc) (d : Doc),
        Query.Finds (I.Leaf d) (q.map Query.toValue) ↔ Holds I d mixedFilter :=
  ⟨by decide, compile_finds_what_is_asked mixedFilter (by decide)⟩

end Filter
end SearchSource
