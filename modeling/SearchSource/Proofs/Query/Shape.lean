import SearchSource.Proofs.Query.Meaning
import Mathlib.Data.List.Perm.Subperm
import Mathlib.Data.List.Perm.Lattice

/-! What a compiled filter looks like: how its parts are wrapped, in which order its clauses stand,
and how many there are. Main statement: `compile_well_formed`. -/
namespace SearchSource

section Blocks

variable {α β : Type} [DecidableEq β] (key : α → β)

/-- The members of some classes, put class after class, are these members in another order. -/
theorem perm_flatMap_filter {keys : List β} (hn : keys.Nodup) (l : List α) :
    (keys.flatMap fun k => l.filter (key · = k)).Perm (l.filter (key · ∈ keys)) := by
  induction keys with
  | nil => simp
  | cons k keys ih =>
    obtain ⟨hk, hkeys⟩ := List.nodup_cons.mp hn
    -- the first class and the others are read off `m` instead of `l`, where they are complements
    let m := l.filter (key · ∈ k :: keys)
    have here : l.filter (key · = k) = m.filter (key · = k) := by
      rw [List.filter_filter]
      refine List.filter_congr fun a _ => ?_
      by_cases h : key a = k <;> simp [h]
    have others : l.filter (key · ∈ keys) = m.filter (fun a => !decide (key a = k)) := by
      rw [List.filter_filter]
      refine List.filter_congr fun a _ => ?_
      by_cases h : key a = k <;> simp [h, hk]
    have hparts := (ih hkeys).append_left (l.filter (key · = k))
    rw [others, here] at hparts
    rw [List.flatMap_cons, here]
    exact hparts.trans (List.filter_append_perm _ m)

/-- In a list of blocks, one for each key, the members with a key are its block. -/
theorem filter_flatMap_eq {block : β → List α} (hb : ∀ k, ∀ a ∈ block k, key a = k) {keys : List β}
    (hn : keys.Nodup) (k : β) :
    (keys.flatMap block).filter (key · = k) = if k ∈ keys then block k else [] := by
  induction keys with
  | nil => simp
  | cons j keys ih =>
    obtain ⟨hj, hkeys⟩ := List.nodup_cons.mp hn
    rw [List.flatMap_cons, List.filter_append, ih hkeys]
    by_cases h : k = j
    · subst h
      have hself : (block k).filter (key · = k) = block k :=
        List.filter_eq_self.mpr fun a ha => by simp [hb k a ha]
      simp [hself, hj]
    · have hnone : (block j).filter (key · = k) = [] :=
        List.filter_eq_nil_iff.mpr fun a ha => by simp [hb j a ha, Ne.symm h]
      simp [hnone, h]

end Blocks

namespace Condition

/-- Whether a condition is a test for equality of something else than a document's name. -/
def testsValue (c : Condition) : Bool := c.operator? = some .equal ∧ c.path ≠ idAttribute

/-- Whether a condition compares with an end of a range. -/
def setsBound (c : Condition) : Bool := c.operator?.any (· ≠ .equal)

theorem path_of_mem_filter {g : List Condition} {path : String} {c : Condition}
    (h : c ∈ g.filter (·.path = path)) :
    c.path = path := by
  simpa using (List.mem_filter.mp h).2

theorem isSome_equality? (c : Condition) : c.equality?.isSome = c.testsValue := by
  unfold equality? testsValue
  split <;> simp_all

end Condition

theorem Bound.key_injective : Function.Injective key := by
  intro a b h
  cases a <;> cases b <;> simp_all [key]

/-- There are four ends of a range, so that distinct ones are at most four. -/
theorem Bound.length_le_four {bounds : List Bound} (h : bounds.Nodup) : bounds.length ≤ 4 := by
  have hsub : bounds ⊆ [above, least, below, most] := fun b _ => by cases b <;> simp
  exact (List.subperm_of_subset h hsub).length_le

namespace Clause

/-- The attribute that a clause is about. -/
def path : Clause → String
  | ids _ => idAttribute
  | terms path _ => path
  | term path _ => path
  | range path _ => path

/-- The names of the queries without parts. -/
def queryKeys : List String := ["ids", "term", "terms", "range"]

theorem toValue_single_key (c : Clause) :
    ∃ key ∈ queryKeys, ∃ inner, c.toValue = .object [(key, inner)] := by
  cases c with
  | ids vs => exact ⟨"ids", by decide, _, rfl⟩
  | terms path vs => exact ⟨"terms", by decide, _, rfl⟩
  | term path v => exact ⟨"term", by decide, _, rfl⟩
  | range path bounds => exact ⟨"range", by decide, _, rfl⟩

theorem keys_boundEntries (bounds : List (Bound × Value)) :
    (boundEntries bounds).keys = (bounds.map (·.1)).map Bound.key := by
  simp [boundEntries, Entries.keys]

theorem length_eq_parts (out : List Clause) :
    out.length =
      (out.filter isEquality).length + (out.filterMap range?).length +
        (out.filterMap ids?).length := by
  induction out with
  | nil => rfl
  | cons c rest ih =>
    cases c <;> grind [isEquality, range?, ids?]

theorem filterMap_ids?_filter (out : List Clause) :
    (out.filter (·.path = idAttribute)).filterMap ids? = out.filterMap ids? := by
  rw [List.filterMap_filter]
  refine List.filterMap_congr fun c _ => ?_
  cases c with
  | ids vs => rw [if_pos (by simp [path])]
  | _ => exact ite_self _

theorem filter_range?_filterMap (out : List Clause) (path : String) :
    (out.filterMap range?).filter (·.1 = path) = (out.filter (·.path = path)).filterMap range? := by
  rw [List.filter_filterMap, List.filterMap_filter]
  refine List.filterMap_congr fun c _ => ?_
  cases c with
  | range a bounds => rfl
  | _ => exact (ite_self _).symm

end Clause

/-- Parts joined in one query: a single part stands for itself, and only two or more are wrapped. -/
inductive Joined (occur : String) : List Value → Value → Prop
  | one (v : Value) : Joined occur [v] v
  | several {parts : List Value} (h : 2 ≤ parts.length) :
    Joined occur parts (.object [("bool", .object [(occur, .list parts)])])

namespace Query

theorem toValues_eq_map (qs : List Query) : toValues qs = qs.map toValue := by
  induction qs with
  | nil => rfl
  | cons q qs ih => rw [toValues, ih, List.map_cons]

theorem toValue_must (qs : List Query) :
    (must qs).toValue = .object [("bool", .object [("must", .list (qs.map toValue))])] := by
  rw [toValue, toValues_eq_map]

theorem toValue_should (qs : List Query) :
    (should qs).toValue = .object [("bool", .object [("should", .list (qs.map toValue))])] := by
  rw [toValue, toValues_eq_map]

theorem joined_combine {occur : String} {join : List Query → Query} {qs : List Query} {q : Query}
    (hjoin : (join qs).toValue = .object [("bool", .object [(occur, .list (qs.map toValue))])])
    (h : combine join qs = some q) : Joined occur (qs.map toValue) q.toValue := by
  match qs with
  | [] => cases h
  | [r] =>
    have hr : r = q := Option.some.inj h
    rw [hr]
    exact .one _
  | r :: s :: rest =>
    have hq : join (r :: s :: rest) = q := Option.some.inj h
    rw [← hq, hjoin]
    exact .several (by simp)

end Query

namespace Filter

def attributes (g : List Condition) : List String := (g.map (·.path)).eraseDups

/-- Attributes on which some condition sets a bound. -/
def boundAttributes (g : List Condition) : List String :=
  (attributes g).filter fun path => g.any fun c => c.path = path && c.setsBound

/-- The clauses of a group: what there is one of, what they hold, and in which order they stand. -/
structure GroupShape (g : List Condition) (out : List Clause) : Prop where
  single : ∀ c ∈ out, ∃ key ∈ Clause.queryKeys, ∃ inner, c.toValue = .object [(key, inner)]
  /-- The clauses of an attribute stand together, those of the attribute that occurs first before
  the others. -/
  grouped : out = (attributes g).flatMap fun path => out.filter (·.path = path)
  ids : out.filterMap Clause.ids? = if idLists g = [] then [] else [(idLists g).flatten]
  equalities : ∀ path, (out.filter (·.path = path)).filter Clause.isEquality =
    (g.filter (·.path = path)).filterMap Condition.equality?
  ranges : ∀ path, ((out.filterMap Clause.range?).filter (·.1 = path)).length ≤ 1
  bounds : ∀ path bounds, .range path bounds ∈ out → 1 ≤ bounds.length ∧ bounds.length ≤ 4 ∧
    (Clause.boundEntries bounds).keys.Nodup ∧ ∀ b v, (b, v) ∈ bounds ↔
      lastTest? path b.operator g = some v
  count : out.length =
    g.countP (·.testsValue) + (boundAttributes g).length + if g.any (·.testsId) then 1 else 0

theorem nodup_attributes (g : List Condition) : (attributes g).Nodup := nodup_eraseDups _

theorem mem_attributes {g : List Condition} {path : String} :
    path ∈ attributes g ↔ ∃ c ∈ g, c.path = path := by
  unfold attributes
  rw [List.mem_eraseDups, List.mem_map]

theorem filter_eq_nil_of_not_mem {g : List Condition} {path : String} (h : path ∉ attributes g) :
    g.filter (·.path = path) = [] := by
  rw [mem_attributes] at h
  push Not at h
  exact List.filter_eq_nil_iff.mpr fun c hc => by simp [h c hc]

theorem idLists_eq_nil {g : List Condition} : idLists g = [] ↔ g.any (·.testsId) = false := by
  simp [idLists]

theorem boundsOf_ne_nil (cs : List Condition) : boundsOf cs ≠ [] ↔ cs.any (·.setsBound) := by
  induction cs using List.reverseRecOn with
  | nil => simp [boundsOf]
  | append_singleton cs c ih =>
    have hc : c.setsBound = (c.operator?.bind FilterOperator.bound?).isSome := by
      unfold Condition.setsBound
      cases ho : c.operator? with
      | none => rfl
      | some o => cases o <;> rfl
    rw [boundsOf_snoc, List.any_append, List.any_cons, List.any_nil, Bool.or_false, hc,
      Bool.or_eq_true, ← ih]
    cases c.operator?.bind FilterOperator.bound? with
    | none => simp
    | some b => simp [setBound_ne_nil]

section Attribute

variable {path : String} {cs : List Condition} {out : List Clause}

theorem Tally.path_eq (h : Tally path cs out) (hp : ∀ c ∈ cs, c.path = path) :
    ∀ c ∈ out, c.path = path := by
  rw [forall_mem_clauses fun c => c.path = path]
  refine ⟨?_, ?_, ?_⟩
  · intro vs hvs
    have hne : idLists cs ≠ [] := by
      intro hnil
      rw [h.ids, if_pos hnil] at hvs
      cases hvs
    rw [Ne, idLists_eq_nil, Bool.not_eq_false, List.any_eq_true] at hne
    obtain ⟨c, hc, ht⟩ := hne
    have hid : c.path = idAttribute := by simp_all [Condition.testsId]
    exact hid.symm.trans (hp c hc)
  · intro e he
    rw [h.equalities, List.mem_filterMap] at he
    obtain ⟨c, hc, hce⟩ := he
    unfold Condition.equality? at hce
    split at hce
    · have hpath : e.path = c.path := by
        cases hv : c.value.asSequence? <;> rw [hv] at hce <;> cases hce <;> rfl
      exact hpath.trans (hp c hc)
    · cases hce
  · intro r hr
    rw [h.ranges] at hr
    split at hr
    · cases hr
    · rw [List.mem_singleton] at hr
      rw [hr]
      rfl

theorem Tally.eq_nil (h : Tally path [] out) : out = [] := by
  have hlength := Clause.length_eq_parts out
  rw [h.ids, h.equalities, h.ranges] at hlength
  exact List.length_eq_zero_iff.mp hlength

end Attribute

section Group

variable {g : List Condition} {block : String → List Clause}
  (ht : ∀ path, Tally path (g.filter (·.path = path)) (block path))

include ht

theorem path_of_mem_block (path : String) : ∀ c ∈ block path, c.path = path :=
  (ht path).path_eq fun _ => Condition.path_of_mem_filter

theorem filter_blocks (path : String) :
    ((attributes g).flatMap block).filter (·.path = path) = block path := by
  rw [filter_flatMap_eq Clause.path (path_of_mem_block ht) (nodup_attributes g)]
  split
  · rfl
  · next h =>
    have hnil := ht path
    rw [filter_eq_nil_of_not_mem h] at hnil
    exact hnil.eq_nil.symm

theorem ids_blocks :
    ((attributes g).flatMap block).filterMap Clause.ids? = if idLists g = [] then []
      else [(idLists g).flatten] := by
  have hids := (ht idAttribute).ids
  rw [idLists_filter, if_pos rfl] at hids
  rw [← Clause.filterMap_ids?_filter, filter_blocks ht, hids]

theorem length_equalities_blocks :
    (((attributes g).flatMap block).filter Clause.isEquality).length = g.countP (·.testsValue) := by
  have hall : g.filter (·.path ∈ attributes g) = g :=
    List.filter_eq_self.mpr fun c hc => by simpa using mem_attributes.mpr ⟨c, hc, rfl⟩
  have hperm := perm_flatMap_filter Condition.path (nodup_attributes g) g
  rw [hall] at hperm
  calc (((attributes g).flatMap block).filter Clause.isEquality).length
    _ = (((attributes g).flatMap fun path => g.filter (·.path = path)).filterMap
        Condition.equality?).length := by
      simp only [List.filter_flatMap, List.filterMap_flatMap, (ht _).equalities]
    _ = (g.filterMap Condition.equality?).length := (hperm.filterMap _).length_eq
    _ = g.countP (·.testsValue) := by
      rw [List.length_filterMap_eq_countP]
      simp only [Condition.isSome_equality?]

theorem length_ranges_blocks :
    (((attributes g).flatMap block).filterMap Clause.range?).length =
      (boundAttributes g).length := by
  have hany (path : String) :
      boundsOf (g.filter (·.path = path)) ≠ [] ↔ (g.any fun c => c.path = path && c.setsBound) := by
    rw [boundsOf_ne_nil, List.any_filter]
  have hone (path : String) : ((block path).filterMap Clause.range?).length =
      if (g.any fun c => c.path = path && c.setsBound) then 1 else 0 := by
    rw [(ht path).ranges]
    by_cases h : boundsOf (g.filter (·.path = path)) = []
    · rw [if_pos h, if_neg fun h' => (hany path).mpr h' h]
      rfl
    · rw [if_neg h, if_pos ((hany path).mp h)]
      rfl
  unfold boundAttributes
  rw [List.filterMap_flatMap, List.length_flatMap, ← List.countP_eq_length_filter]
  simp only [hone]
  induction attributes g with
  | nil => rfl
  | cons path paths ih =>
    rw [List.map_cons, List.sum_cons, ih, List.countP_cons, Nat.add_comm]

theorem groupShape_blocks : GroupShape g ((attributes g).flatMap block) where
  single c _ := c.toValue_single_key
  grouped := by
    simp only [filter_blocks ht]
  ids := ids_blocks ht
  equalities path := by
    rw [filter_blocks ht]
    exact (ht path).equalities
  ranges path := by
    rw [Clause.filter_range?_filterMap, filter_blocks ht, (ht path).ranges]
    split <;> simp
  bounds path bounds hm := by
    have hblock : Clause.range path bounds ∈ block path := by
      rw [← filter_blocks ht path]
      exact List.mem_filter.mpr ⟨hm, by simp [Clause.path]⟩
    have hrange : (path, bounds) ∈ (block path).filterMap Clause.range? :=
      List.mem_filterMap.mpr ⟨_, hblock, rfl⟩
    rw [(ht path).ranges] at hrange
    have hne : boundsOf (g.filter (·.path = path)) ≠ [] := by
      intro hnil
      rw [if_pos hnil] at hrange
      cases hrange
    rw [if_neg hne, List.mem_singleton, Prod.mk.injEq] at hrange
    obtain ⟨-, rfl⟩ := hrange
    have hn := nodup_boundsOf (g.filter (·.path = path))
    have hlength := Bound.length_le_four hn
    rw [List.length_map] at hlength
    refine ⟨List.length_pos_iff.mpr hne, hlength, ?_, ?_⟩
    · rw [Clause.keys_boundEntries]
      exact hn.map Bound.key_injective
    · intro b v
      rw [mem_boundsOf (fun _ => Condition.path_of_mem_filter), lastTest?_filter, if_pos rfl]
  count := by
    rw [Clause.length_eq_parts, length_equalities_blocks ht, length_ranges_blocks ht, ids_blocks ht]
    by_cases h : idLists g = []
    · rw [if_pos h, idLists_eq_nil.mp h]
      rfl
    · have hany : g.any (·.testsId) = true := by
        rw [← Bool.not_eq_false]
        exact fun h' => h (idLists_eq_nil.mpr h')
      rw [if_neg h, hany]
      rfl

end Group

theorem groupClauses_eq_flatMap {conditions : String → List Condition}
    {block : String → List Clause}
    (h : ∀ path, attributeClauses path [] (conditions path) = .ok (block path))
    (paths : List String) :
    groupClauses (paths.map fun path => (path, conditions path)) = .ok (paths.flatMap block) := by
  induction paths with
  | nil => rfl
  | cons path paths ih =>
    rw [List.map_cons, groupClauses, h, ih]
    rfl

/-- A group of supported conditions has well-formed clauses, joined where there are several. -/
theorem compileGroup_shape {g : List Condition} (hs : ∀ c ∈ g, c.Supported) :
    ∃ out, compileGroup g = .ok (Query.combine .must (out.map .clause)) ∧ GroupShape g out := by
  have hex (path : String) : ∃ out, attributeClauses path [] (g.filter (·.path = path)) = .ok out ∧
      Tally path (g.filter (·.path = path)) out :=
    attributeClauses_tally (fun _ => Condition.path_of_mem_filter) fun c hc =>
      hs c (List.mem_of_mem_filter hc)
  choose block hblock htally using hex
  refine ⟨(attributes g).flatMap block, ?_, groupShape_blocks htally⟩
  unfold compileGroup
  rw [byAttribute_eq, groupClauses_eq_flatMap hblock]
  rfl

/-- The groups that say something have a query each, and these stand in the order of the groups. -/
theorem compileGroups_shape {e : FilterExpression} (hs : ∀ g ∈ e, ∀ c ∈ g, c.Supported) :
    ∃ qs groups, compileGroups e = .ok qs ∧ List.Forall₂ GroupShape (e.filter (!·.isEmpty)) groups ∧
      List.Forall₂ (fun out part => Joined "must" (out.map Clause.toValue) part) groups
        (qs.map Query.toValue) := by
  induction e with
  | nil => exact ⟨[], [], rfl, .nil, .nil⟩
  | cons g gs ih =>
    obtain ⟨qs, groups, hqs, hgroups, hparts⟩ := ih fun a ha => hs a (by simp [ha])
    obtain ⟨out, hout, hshape⟩ := compileGroup_shape (hs g (by simp))
    obtain ⟨q, hq, hnone, -⟩ := compileGroup_finds (hs g (by simp))
    have hcombined : Query.combine .must (out.map .clause) = q := Except.ok.inj (hout.symm.trans hq)
    have hstep : compileGroups (g :: gs) = .ok (q.toList ++ qs) := by
      rw [compileGroups, hq, hqs]
      rfl
    cases q with
    | none =>
      have hg : g = [] := hnone.mp rfl
      refine ⟨qs, groups, hstep, ?_, hparts⟩
      rw [hg]
      exact hgroups
    | some q =>
      have hg : g ≠ [] := fun h => by cases hnone.mpr h
      have hjoined := Query.joined_combine (Query.toValue_must _) hcombined
      rw [List.map_map] at hjoined
      refine ⟨q :: qs, out :: groups, hstep, ?_, .cons hjoined hparts⟩
      rw [List.filter_cons_of_pos (by simpa using hg)]
      exact .cons hshape hgroups

/-- A filter of supported conditions has a query unless all of its groups are empty. The query joins
those of the other groups, each of which joins the clauses of its group, and these are well
formed. -/
theorem compile_well_formed (e : FilterExpression) (hs : ∀ g ∈ e, ∀ c ∈ g, c.Supported) :
    ∃ q, compile e = .ok q ∧ (q = none ↔ ∀ g ∈ e, g = []) ∧ ∀ r, q = some r → ∃ groups parts,
      List.Forall₂ GroupShape (e.filter (!·.isEmpty)) groups ∧
        List.Forall₂ (fun out part => Joined "must" (out.map Clause.toValue) part) groups parts ∧
        Joined "should" parts r.toValue := by
  obtain ⟨qs, groups, hqs, hgroups, hparts⟩ := compileGroups_shape hs
  refine ⟨Query.combine .should qs, ?_, ?_, ?_⟩
  · unfold compile
    rw [hqs]
    rfl
  · have hlength : qs.length = (e.filter (!·.isEmpty)).length := by
      rw [hgroups.length_eq, hparts.length_eq, List.length_map]
    rw [Query.combine_eq_none, ← List.length_eq_zero_iff, hlength, List.length_eq_zero_iff,
      List.filter_eq_nil_iff]
    simp
  · intro r hr
    exact ⟨groups, qs.map Query.toValue, hgroups, hparts,
      Query.joined_combine (Query.toValue_should qs) hr⟩

/-- Names in two tests, bounds and values of one attribute mixed, and a second group. -/
def ports : FilterExpression :=
  [[⟨"depth", .text "greater", .int 5⟩, ⟨"_id", .text "equal", .list [.int 1, .int 2]⟩,
    ⟨"depth", .text "equal", .int 9⟩, ⟨"depth", .text "less", .int 20⟩,
    ⟨"_id", .text "equal", .int 3⟩], [],
    [⟨"country", .text "equal", .list [.text "fi", .text "ee"]⟩]]

theorem compile_well_formed_ports :
    (∀ g ∈ ports, ∀ c ∈ g, c.Supported) ∧
      ∃ q, compile ports = .ok q ∧ (q = none ↔ ∀ g ∈ ports, g = []) ∧
        ∀ r, q = some r → ∃ groups parts,
        List.Forall₂ GroupShape (ports.filter (!·.isEmpty)) groups ∧
          List.Forall₂ (fun out part => Joined "must" (out.map Clause.toValue) part) groups parts ∧
          Joined "should" parts r.toValue :=
  ⟨by decide, compile_well_formed ports (by decide)⟩

end Filter
end SearchSource
