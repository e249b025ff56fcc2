import SearchSource.Proofs.Result.Flatten

/-! The order in which a flat mapping comes about. Main statement: `flatten_inserts_leaves`. -/
namespace SearchSource.Flatten

/-- A mapping whose keys are texts, and so are those of every mapping in it. -/
inductive TextKeyed : List (String × Value) → Prop
  | nil : TextKeyed []
  | leaf {k : String} {v : Value} {rest : List (String × Value)} (hv : v.isMapping = false)
    (h : TextKeyed rest) :
    TextKeyed ((k, v) :: rest)
  | mapping {k : String} {inner rest : List (String × Value)} (hinner : TextKeyed inner)
    (h : TextKeyed rest) :
    TextKeyed ((k, .object inner) :: rest)

theorem lookup_flatten (start k : String) (es : Entries Value) :
    (flatten start es).lookup k = (paths start es).reverse.lookup k := by
  rw [flatten_eq_ofList, Entries.lookup_ofList]

theorem nodup_keys_flatten (start : String) (es : Entries Value) :
    (flatten start es).keys.Nodup := by
  rw [flatten_eq_ofList]
  exact Entries.nodup_keys_ofList _

/-- What holds of all leaves holds of all values. -/
theorem forall_mem_flatten {P : Value → Prop} {es : Entries Value} (h : ∀ l ∈ leaves es, P l.2)
    (start : String) :
    ∀ e ∈ flatten start es, P e.2 := by
  rw [flatten_eq_ofList]
  refine Entries.forall_mem_merge (P := fun e => P e.2) (by simp) fun e he => ?_
  obtain ⟨l, hl, rfl⟩ := List.mem_map.mp he
  exact h l hl

theorem forall_mem_leaves_object {P : Value → Prop} {k : String} {inner rest : Entries Value} :
    (∀ l ∈ leaves ((k, .object inner) :: rest), P l.2) ↔
      (∀ l ∈ leaves inner, P l.2) ∧ ∀ l ∈ leaves rest, P l.2 := by
  rw [leaves_object, List.forall_mem_append, List.forall_mem_map]

theorem ne_object_of_mem_leaves (es : List (String × Value)) :
    ∀ l ∈ leaves es, ∀ inner, l.2 ≠ .object inner := by
  induction es using leaves.induct with
  | case1 => simp [leaves]
  | case2 k inner rest ihinner ihrest =>
    exact forall_mem_leaves_object (P := fun v => ∀ es, v ≠ .object es) |>.mpr ⟨ihinner, ihrest⟩
  | case3 k v rest hv ihrest =>
    rw [leaves_other k hv]
    exact List.forall_mem_cons.mpr ⟨hv, ihrest⟩

theorem TextKeyed.isMapping_of_mem_leaves {es : List (String × Value)} (h : TextKeyed es) :
    ∀ l ∈ leaves es, l.2.isMapping = false := by
  induction h with
  | nil => simp [leaves]
  | leaf hv _ ih =>
    rw [leaves_other _ (Value.ne_object hv)]
    exact List.forall_mem_cons.mpr ⟨hv, ih⟩
  | mapping _ _ ihinner ih =>
    exact forall_mem_leaves_object (P := fun v => v.isMapping = false) |>.mpr ⟨ihinner, ih⟩

/-- Where no value is a mapping there is nothing to make flat. -/
theorem paths_of_flat {es : Entries Value} (h : ∀ e ∈ es, ∀ inner, e.2 ≠ .object inner) :
    paths "" es = es := by
  induction es with
  | nil =>
    rw [paths, leaves]
    rfl
  | cons e rest ih =>
    obtain ⟨k, v⟩ := e
    obtain ⟨hv, hrest⟩ := List.forall_mem_cons.mp h
    rw [paths_other "" k hv, ih hrest, String.empty_append]

theorem flatten_of_flat {es : Entries Value} (hkeys : es.keys.Nodup)
    (h : ∀ e ∈ es, ∀ inner, e.2 ≠ .object inner) :
    flatten "" es = es := by
  rw [flatten_eq_ofList, paths_of_flat h, Entries.ofList_of_nodup hkeys]

theorem flatten_start (start : String) (es : Entries Value) :
    flatten start es = (flatten "" es).map fun e => (start ++ e.1, e.2) := by
  have hpaths : paths start es = (paths "" es).map fun e => (start ++ e.1, e.2) := by
    simp [paths]
  have hinj : Function.Injective (start ++ ·) :=
    fun a b hab => String.append_right_inj start |>.mp hab
  rw [flatten_eq_ofList, flatten_eq_ofList, Entries.map_ofList hinj, hpaths]

/-- A flat mapping is made of the leaves, put in depth first, each under its dotted path: a path
stands where it came first and has the value that came last. What all paths begin with may be put
before the keys in the end. No value is a mapping, and to make the result flat again changes
nothing. -/
theorem flatten_inserts_leaves (start : String) {es : Entries Value} (h : TextKeyed es) :
    flatten start es = Entries.ofList ((leaves es).map fun l => (start ++ dotted l.1, l.2)) ∧
      (flatten start es).keys = ((leaves es).map fun l => start ++ dotted l.1).eraseDups ∧
      (∀ k, (flatten start es).lookup k =
        ((leaves es).map fun l => (start ++ dotted l.1, l.2)).reverse.lookup k) ∧
      flatten start es = (flatten "" es).map (fun e => (start ++ e.1, e.2)) ∧
      (∀ e ∈ flatten start es, e.2.isMapping = false) ∧
      flatten "" (flatten start es) = flatten start es := by
  refine ⟨flatten_eq_ofList start es, ?keys, fun k =>
    lookup_flatten start k es, flatten_start start es, ?values, ?again⟩
  case keys =>
    rw [flatten_eq_ofList, Entries.keys_ofList, Entries.keys, paths, List.map_map]
    rfl
  case values =>
    exact forall_mem_flatten (P := fun v => v.isMapping = false) h.isMapping_of_mem_leaves start
  case again =>
    refine flatten_of_flat (nodup_keys_flatten start es) ?_
    exact forall_mem_flatten (P := fun v => ∀ inner, v ≠ .object inner)
      (ne_object_of_mem_leaves es) start

/-- A team whose own names have points, so that some paths come twice. -/
def team : Entries Value :=
  [("coach", .object [("name", .text "Ann"), ("home", .object [("city", .text "Oslo")])]),
    ("coach.name", .text "Bob"),
    ("coach.home", .object [("city", .null), ("port", .list [.object []])]), ("guests", .object [])]

theorem flatten_inserts_leaves_team : TextKeyed team ∧
    flatten ">" team = [(">coach.name", .text "Bob"), (">coach.home.city", .null),
      (">coach.home.port", .list [.object []])] ∧
    flatten "" (flatten ">" team) = flatten ">" team := by
  have htext : TextKeyed team :=
    .mapping (.leaf rfl (.mapping (.leaf rfl .nil) .nil))
      (.leaf rfl (.mapping (.leaf rfl (.leaf rfl .nil)) (.mapping .nil .nil)))
  obtain ⟨hflat, -, -, -, -, hagain⟩ := flatten_inserts_leaves ">" htext
  refine ⟨htext, hflat.trans ?_, hagain⟩
  simp [team, leaves]
  rfl

end SearchSource.Flatten
