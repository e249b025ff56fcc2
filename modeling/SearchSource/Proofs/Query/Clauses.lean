import SearchSource.Proofs.Query.Grouping

/-! The clauses of one attribute. Main statement: `attributeClauses_tally`, what the clauses hold
after any sequence of supported tests, by the invariant `Tally` that every further test keeps. -/
namespace SearchSource

def Bound.operator : Bound → FilterOperator
  | above => .greater
  | least => .greaterOrEqual
  | below => .less
  | most => .lessOrEqual

theorem FilterOperator.bound?_eq_some (o : FilterOperator) (b : Bound) :
    o.bound? = some b ↔ o = b.operator := by
  cases o <;> cases b <;> simp [bound?, Bound.operator]

theorem FilterOperator.bound?_eq_none (o : FilterOperator) : o.bound? = none ↔ o = .equal := by
  cases o <;> simp [bound?]

namespace Condition

def operator? (c : Condition) : Option FilterOperator := Filter.operatorOf? c.operator

def Supported (c : Condition) : Prop := c.operator?.isSome

instance (c : Condition) : Decidable c.Supported :=
  inferInstanceAs (Decidable (c.operator?.isSome = true))

/-- The values that a condition lists: the items of a sequence, or a single value. -/
def items (c : Condition) : List Value := c.value.asSequence?.getD [c.value]

/-- Whether a condition tests for documents by their names. -/
def testsId (c : Condition) : Bool := c.operator? = some .equal ∧ c.path = idAttribute

def equality? (c : Condition) : Option Clause :=
  if c.operator? = some .equal ∧ c.path ≠ idAttribute then
    some (match c.value.asSequence? with
      | some vs => .terms c.path vs
      | none => .term c.path c.value)
  else none

end Condition

namespace Clause

def ids? : Clause → Option (List Value)
  | ids vs => some vs
  | _ => none

def range? : Clause → Option (String × List (Bound × Value))
  | range path bounds => some (path, bounds)
  | _ => none

def isEquality : Clause → Bool
  | terms _ _ | term _ _ => true
  | _ => false

end Clause

namespace Filter

/-- The value of the last condition with an attribute and an operator. -/
def lastTest? (path : String) (o : FilterOperator) (cs : List Condition) : Option Value :=
  (cs.reverse.find? fun c => c.path = path ∧ c.operator? = some o).map (·.value)

/-- The values of all tests for documents, one list a test. -/
def idLists (cs : List Condition) : List (List Value) := (cs.filter (·.testsId)).map (·.items)

/-- The bounds that conditions set, in turn. -/
def boundsOf (cs : List Condition) : List (Bound × Value) :=
  cs.foldl (fun bounds c => match c.operator?.bind FilterOperator.bound? with
    | some b => setBound b c.value bounds
    | none => bounds) []

/-- What the clauses of one attribute hold: all names in one clause, all bounds in one range, and a
clause for every other equality test. -/
structure Tally (path : String) (cs : List Condition) (out : List Clause) : Prop where
  ids : out.filterMap Clause.ids? = if idLists cs = [] then [] else [(idLists cs).flatten]
  equalities : out.filter Clause.isEquality = cs.filterMap Condition.equality?
  ranges : out.filterMap Clause.range? = if boundsOf cs = [] then [] else [(path, boundsOf cs)]

theorem lastTest?_snoc (path : String) (o : FilterOperator) (cs : List Condition) (c : Condition) :
    lastTest? path o (cs ++ [c]) =
      if c.path = path ∧ c.operator? = some o then some c.value else lastTest? path o cs := by
  unfold lastTest?
  rw [List.reverse_concat, List.find?_cons]
  by_cases h : c.path = path ∧ c.operator? = some o <;> simp [h]

theorem exists_of_lastTest? {path : String} {o : FilterOperator} {g : List Condition} {v : Value}
    (h : lastTest? path o g = some v) :
    ∃ c ∈ g, c.path = path ∧ c.operator? = some o ∧ c.value = v := by
  obtain ⟨c, hc, rfl⟩ := Option.map_eq_some_iff.mp h
  have hp := List.find?_some hc
  rw [decide_eq_true_iff] at hp
  exact ⟨c, List.mem_reverse.mp (List.mem_of_find?_eq_some hc), hp.1, hp.2, rfl⟩

theorem exists_lastTest? {g : List Condition} {c : Condition} {o : FilterOperator} (hc : c ∈ g)
    (ho : c.operator? = some o) : ∃ v, lastTest? c.path o g = some v := by
  unfold lastTest?
  rw [← Option.isSome_iff_exists, Option.isSome_map, List.find?_isSome]
  exact ⟨c, List.mem_reverse.mpr hc, by simp [ho]⟩

theorem idLists_snoc (cs : List Condition) (c : Condition) :
    idLists (cs ++ [c]) = idLists cs ++ (if c.testsId then [c.items] else []) := by
  by_cases h : c.testsId <;> simp [idLists, List.filter_append, h]

theorem boundsOf_snoc (cs : List Condition) (c : Condition) :
    boundsOf (cs ++ [c]) = match c.operator?.bind FilterOperator.bound? with
      | some b => setBound b c.value (boundsOf cs)
      | none => boundsOf cs := by
  simp [boundsOf]

theorem setBound_ne_nil (b : Bound) (v : Value) (bounds : List (Bound × Value)) :
    setBound b v bounds ≠ [] := by
  cases bounds with
  | nil => simp [setBound]
  | cons e rest => unfold setBound; split <;> simp

theorem keys_setBound (b : Bound) (v : Value) (bounds : List (Bound × Value)) :
    (setBound b v bounds).map (·.1) =
      if b ∈ bounds.map (·.1) then bounds.map (·.1) else bounds.map (·.1) ++ [b] := by
  induction bounds with
  | nil => simp [setBound]
  | cons e rest ih =>
    obtain ⟨c, w⟩ := e
    by_cases hc : c = b
    · simp [setBound, hc]
    · by_cases hm : b ∈ rest.map (·.1) <;> simp_all [setBound, Ne.symm hc]

theorem mem_setBound {b c : Bound} {v w : Value} {bounds : List (Bound × Value)}
    (h : (bounds.map (·.1)).Nodup) :
    (c, w) ∈ setBound b v bounds ↔ if c = b then w = v else (c, w) ∈ bounds := by
  induction bounds with
  | nil => by_cases hc : c = b <;> simp [setBound, hc]
  | cons e rest ih =>
    obtain ⟨a, x⟩ := e
    rw [List.map_cons, List.nodup_cons] at h
    by_cases ha : a = b
    · subst ha
      have hrest : ∀ y, (a, y) ∉ rest := fun y hy => h.1 (List.mem_map.mpr ⟨(a, y), hy, rfl⟩)
      by_cases hc : c = a
      · subst hc; simp [setBound, hrest]
      · simp [setBound, hc]
    · by_cases hc : c = b
      · subst hc; simp [setBound, ha, ih h.2, Ne.symm ha]
      · simp [setBound, ha, ih h.2, hc]

theorem nodup_boundsOf (cs : List Condition) : ((boundsOf cs).map (·.1)).Nodup := by
  induction cs using List.reverseRecOn with
  | nil => exact List.nodup_nil
  | append_singleton cs c ih =>
    rw [boundsOf_snoc]
    cases hb : c.operator?.bind FilterOperator.bound? with
    | none => exact ih
    | some b =>
      dsimp only
      rw [keys_setBound]
      split
      · exact ih
      · next hm => exact List.nodup_append.mpr ⟨ih, by simp, fun x hx y hy => by grind⟩

/-- The bounds of one attribute are the values of the last conditions of their kinds. -/
theorem mem_boundsOf {path : String} {cs : List Condition} (hp : ∀ c ∈ cs, c.path = path)
    (b : Bound) (v : Value) :
    (b, v) ∈ boundsOf cs ↔ lastTest? path b.operator cs = some v := by
  induction cs using List.reverseRecOn with
  | nil => simp [boundsOf, lastTest?]
  | append_singleton cs c ih =>
    have hc : c.path = path := hp c (by simp)
    have hcs := ih fun d hd => hp d (by simp [hd])
    rw [boundsOf_snoc, lastTest?_snoc]
    cases ho : c.operator? with
    | none => simpa using hcs
    | some o =>
      cases hb : o.bound? with
      | none =>
        have hne : o ≠ b.operator := by
          intro he
          rw [(FilterOperator.bound?_eq_some o b).mpr he] at hb
          cases hb
        simpa [hb, hne] using hcs
      | some a =>
        have ha := (FilterOperator.bound?_eq_some o a).mp hb
        have hiff : o = b.operator ↔ b = a := by
          rw [← FilterOperator.bound?_eq_some, hb, Option.some.injEq, eq_comm]
        by_cases hba : b = a
        · rw [if_pos ⟨hc, by rw [hiff.mpr hba]⟩]
          simp [hb, hba, mem_setBound (nodup_boundsOf cs), eq_comm]
        · simpa [hb, hc, hiff, hba, mem_setBound (nodup_boundsOf cs)] using hcs

theorem ids_addIds (vs : List Value) (out : List Clause) :
    (addIds vs out).filterMap Clause.ids? = match out.filterMap Clause.ids? with
      | [] => [vs]
      | ws :: rest => (ws ++ vs) :: rest := by
  induction out with
  | nil => rfl
  | cons c rest ih => cases c <;> grind [addIds, Clause.ids?]

/-- What is not read off a clause that names documents stays as it is. -/
theorem filterMap_addIds {β : Type} {f : Clause → Option β} (hf : ∀ ws, f (.ids ws) = none)
    (vs : List Value) (out : List Clause) : (addIds vs out).filterMap f = out.filterMap f := by
  induction out with
  | nil =>
    unfold addIds
    rw [List.filterMap_cons_none (hf vs)]
  | cons c rest ih =>
    cases c with
    | ids ws =>
      unfold addIds
      rw [List.filterMap_cons_none (hf ws), List.filterMap_cons_none (hf (ws ++ vs))]
    | _ =>
      unfold addIds
      rw [List.filterMap_cons, List.filterMap_cons, ih]

/-- What is not read off a range stays as it is. -/
theorem filterMap_addBound {β : Type} {f : Clause → Option β} (hf : ∀ a bs, f (.range a bs) = none)
    (path : String) (b : Bound) (v : Value) (out : List Clause) :
    (addBound path b v out).filterMap f = out.filterMap f := by
  induction out with
  | nil =>
    unfold addBound
    rw [List.filterMap_cons_none (hf path _)]
  | cons c rest ih =>
    cases c with
    | range a bs =>
      unfold addBound
      split
      · rw [List.filterMap_cons_none (hf a bs), List.filterMap_cons_none (hf a _)]
      · rw [List.filterMap_cons, List.filterMap_cons, ih]
    | _ =>
      unfold addBound
      rw [List.filterMap_cons, List.filterMap_cons, ih]

/-- The first range takes the bound, if all ranges are of its attribute. -/
theorem ranges_addBound {path : String} (b : Bound) (v : Value) {out : List Clause}
    (h : ∀ r ∈ out.filterMap Clause.range?, r.1 = path) :
    (addBound path b v out).filterMap Clause.range? = match out.filterMap Clause.range? with
      | [] => [(path, [(b, v)])]
      | r :: rest => (path, setBound b v r.2) :: rest := by
  induction out with
  | nil => rfl
  | cons c rest ih =>
    cases c with
    | range a bs =>
      have ha : a = path := h (a, bs) (by simp [Clause.range?])
      simp [addBound, Clause.range?, ha]
    | _ => grind [addBound, Clause.range?]

theorem Tally.nil (path : String) : Tally path [] [] := ⟨rfl, rfl, rfl⟩

theorem Tally.addBound {path : String} {cs : List Condition} {out : List Clause}
    (h : Tally path cs out) {c : Condition} {o : FilterOperator} {b : Bound}
    (ho : c.operator? = some o) (hb : o.bound? = some b) :
    Tally path (cs ++ [c]) (addBound path b c.value out) := by
  have hne : o ≠ .equal := fun he => by rw [he] at hb; cases hb
  refine ⟨?_, ?_, ?_⟩
  · rw [filterMap_addBound fun _ _ => rfl, h.ids, idLists_snoc]
    simp [Condition.testsId, ho, hne]
  · rw [← List.filterMap_eq_filter, filterMap_addBound fun _ _ => rfl, List.filterMap_eq_filter,
      h.equalities, List.filterMap_append]
    simp [Condition.equality?, ho, hne]
  · have hpath : ∀ r ∈ out.filterMap Clause.range?, r.1 = path := by
      intro r hr
      rw [h.ranges] at hr
      split at hr <;> simp_all
    rw [ranges_addBound b c.value hpath, h.ranges, boundsOf_snoc, ho, Option.bind_some, hb]
    by_cases he : boundsOf cs = [] <;> simp [he, setBound, setBound_ne_nil]

theorem Tally.addIds {path : String} {cs : List Condition} {out : List Clause}
    (h : Tally path cs out) {c : Condition} (ho : c.operator? = some .equal)
    (hp : c.path = idAttribute) :
    Tally path (cs ++ [c]) (addIds c.items out) := by
  have ht : c.testsId := by simp [Condition.testsId, ho, hp]
  refine ⟨?_, ?_, ?_⟩
  · rw [ids_addIds, h.ids, idLists_snoc, if_pos ht]
    by_cases he : idLists cs = [] <;> simp [he]
  · rw [← List.filterMap_eq_filter, filterMap_addIds fun _ => rfl, List.filterMap_eq_filter,
      h.equalities, List.filterMap_append]
    simp [Condition.equality?, hp]
  · rw [filterMap_addIds fun _ => rfl, h.ranges, boundsOf_snoc]
    simp [ho, FilterOperator.bound?]

theorem Tally.snoc_equality {path : String} {cs : List Condition} {out : List Clause}
    (h : Tally path cs out) {c : Condition} {e : Clause} (ho : c.operator? = some .equal)
    (hp : c.path ≠ idAttribute) (he : c.equality? = some e) (hi : e.isEquality) :
    Tally path (cs ++ [c]) (out ++ [e]) := by
  have hids : e.ids? = none := by cases e <;> first | rfl | cases hi
  have hrange : e.range? = none := by cases e <;> first | rfl | cases hi
  refine ⟨?_, ?_, ?_⟩
  · rw [List.filterMap_append, h.ids, idLists_snoc]
    simp [Condition.testsId, hp, hids]
  · rw [List.filter_append, h.equalities, List.filterMap_append]
    simp [he, hi]
  · rw [List.filterMap_append, h.ranges, boundsOf_snoc]
    simp [ho, FilterOperator.bound?, hrange]

theorem Tally.addTest {path : String} {cs : List Condition} {out : List Clause}
    (h : Tally path cs out) {c : Condition} {o : FilterOperator} (hp : c.path = path)
    (ho : c.operator? = some o) :
    Tally path (cs ++ [c]) (addTest path out o c.value) := by
  unfold Filter.addTest
  cases hb : o.bound? with
  | some b => exact h.addBound ho hb
  | none =>
    rw [(FilterOperator.bound?_eq_none o).mp hb] at ho
    dsimp only
    split
    · next hid => exact h.addIds ho (hp.trans hid)
    · next hid =>
      subst hp
      cases hv : c.value.asSequence? with
      | some vs => exact h.snoc_equality ho hid (by simp [Condition.equality?, ho, hid, hv]) rfl
      | none => exact h.snoc_equality ho hid (by simp [Condition.equality?, ho, hid, hv]) rfl

theorem attributeClauses_append (path : String) (cs ds : List Condition) (out : List Clause) :
    attributeClauses path out (cs ++ ds) =
      (attributeClauses path out cs).bind fun mid => attributeClauses path mid ds := by
  induction cs generalizing out with
  | nil => rfl
  | cons c cs ih =>
    simp only [List.cons_append, attributeClauses]
    cases operatorOf? c.operator with
    | none => rfl
    | some o => exact ih _

/-- Supported tests of one attribute have clauses, which hold exactly what the tests say. -/
theorem attributeClauses_tally {path : String} {cs : List Condition}
    (hp : ∀ c ∈ cs, c.path = path) (hs : ∀ c ∈ cs, c.Supported) :
    ∃ out, attributeClauses path [] cs = .ok out ∧ Tally path cs out := by
  induction cs using List.reverseRecOn with
  | nil => exact ⟨[], rfl, .nil path⟩
  | append_singleton cs c ih =>
    obtain ⟨out, hout, ht⟩ := ih (fun d hd => hp d (by simp [hd])) fun d hd => hs d (by simp [hd])
    obtain ⟨o, ho⟩ := Option.isSome_iff_exists.mp (hs c (by simp))
    refine ⟨Filter.addTest path out o c.value, ?_, ht.addTest (hp c (by simp)) ho⟩
    have ho' : operatorOf? c.operator = some o := ho
    rw [attributeClauses_append, hout]
    simp [Except.bind, attributeClauses, ho']

/-- Every test adds to the clauses of its attribute, so only an attribute without tests has none. -/
theorem Tally.ne_nil {path : String} {cs : List Condition} {out : List Clause}
    (h : Tally path cs out) (hs : ∀ c ∈ cs, c.Supported) (hne : cs ≠ []) : out ≠ [] := by
  rintro rfl
  obtain ⟨ds, c, rfl⟩ := (List.eq_nil_or_concat' cs).resolve_left hne
  obtain ⟨o, ho⟩ := Option.isSome_iff_exists.mp (hs c (by simp))
  have hids := h.ids
  have heq := h.equalities
  have hranges := h.ranges
  rw [idLists_snoc] at hids
  rw [boundsOf_snoc, ho, Option.bind_some] at hranges
  cases hb : o.bound? with
  | some b => simp [hb, setBound_ne_nil] at hranges
  | none =>
    rw [(FilterOperator.bound?_eq_none o).mp hb] at ho
    by_cases hid : c.path = idAttribute
    · simp [Condition.testsId, ho, hid] at hids
    · simp [Condition.equality?, ho, hid] at heq

theorem groupClauses_tally {groups : Entries (List Condition)}
    (hp : ∀ e ∈ groups, ∀ c ∈ e.2, c.path = e.1) (hs : ∀ e ∈ groups, ∀ c ∈ e.2, c.Supported) :
    ∃ outs, groupClauses groups = .ok outs.flatten ∧
      List.Forall₂ (fun e out => Tally e.1 e.2 out) groups outs := by
  induction groups with
  | nil => exact ⟨[], rfl, .nil⟩
  | cons e rest ih =>
    obtain ⟨out, hout, ht⟩ := attributeClauses_tally (hp e (by simp)) (hs e (by simp))
    obtain ⟨outs, houts, hts⟩ :=
      ih (fun a ha => hp a (by simp [ha])) fun a ha => hs a (by simp [ha])
    refine ⟨out :: outs, ?_, .cons ht hts⟩
    unfold groupClauses
    rw [hout, houts]
    rfl

theorem eq_nil_of_flatten_eq_nil {groups : Entries (List Condition)} {outs : List (List Clause)}
    (h : List.Forall₂ (fun e out => Tally e.1 e.2 out) groups outs)
    (hs : ∀ e ∈ groups, ∀ c ∈ e.2, c.Supported) (hnil : outs.flatten = []) :
    ∀ e ∈ groups, e.2 = [] := by
  induction h with
  | nil => simp
  | @cons e out rest outs ht _ ih =>
    rw [List.flatten_cons, List.append_eq_nil_iff] at hnil
    rw [List.forall_mem_cons]
    refine ⟨?_, ih (fun a ha => hs a (by simp [ha])) hnil.2⟩
    by_contra hne
    exact ht.ne_nil (hs e (by simp)) hne hnil.1

end Filter
end SearchSource
