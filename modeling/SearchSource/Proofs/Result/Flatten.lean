import SearchSource.Result.Flatten
import SearchSource.Proofs.Entries
import SearchSource.Proofs.Text.Separated
import SearchSource.Proofs.Value

/-! Rows and the documents they come from. A row is the leaves of its document, put in one after the
other; a document whose names have no point is read off its row. Main statement: `nest_flatten`. -/
namespace SearchSource.Flatten

/-- The values that are no mapping, depth first, each with the names that lead to it. -/
def leaves : List (String × Value) → List (List String × Value)
  | [] => []
  | (k, .object inner) :: rest => (leaves inner).map (fun l => (k :: l.1, l.2)) ++ leaves rest
  | (k, v) :: rest => ([k], v) :: leaves rest

/-- Names in one, a point between two of them. -/
def dotted (names : List String) : String := ".".intercalate names

theorem dotted_cons {k : String} {names : List String} (h : names ≠ []) :
    dotted (k :: names) = k ++ "." ++ dotted names :=
  String.intercalate_cons_of_ne_nil h

theorem leaves_object (k : String) (inner rest : Entries Value) :
    leaves ((k, .object inner) :: rest) =
      (leaves inner).map (fun l => (k :: l.1, l.2)) ++ leaves rest := by
  rw [leaves]

theorem leaves_other (k : String) {v : Value} (hv : ∀ es, v ≠ .object es) (rest : Entries Value) :
    leaves ((k, v) :: rest) = ([k], v) :: leaves rest := by
  rw [leaves]
  exact hv

theorem ne_nil_of_mem_leaves {es : List (String × Value)} : ∀ l ∈ leaves es, l.1 ≠ [] := by
  induction es using leaves.induct with
  | case1 => simp [leaves]
  | case2 k inner rest ihinner ihrest =>
    intro l hl
    rw [leaves_object] at hl
    rcases List.mem_append.mp hl with hin | hrest
    · obtain ⟨m, -, rfl⟩ := List.mem_map.mp hin
      exact List.cons_ne_nil _ _
    · exact ihrest l hrest
  | case3 k v rest hv ihrest =>
    rw [leaves_other k hv]
    simpa using ihrest

/-- The leaves under their paths. -/
def paths (start : String) (es : Entries Value) : Entries Value :=
  (leaves es).map fun l => (start ++ dotted l.1, l.2)

theorem paths_object (start k : String) (inner rest : Entries Value) :
    paths start ((k, .object inner) :: rest) =
      paths (start ++ k ++ ".") inner ++ paths start rest := by
  unfold paths
  rw [leaves_object, List.map_append, List.map_map]
  congr 1
  apply List.map_congr_left
  intro l hl
  simp only [Function.comp_apply, dotted_cons (ne_nil_of_mem_leaves l hl), String.append_assoc]

theorem paths_other (start k : String) {v : Value} (hv : ∀ es, v ≠ .object es)
    (rest : Entries Value) :
    paths start ((k, v) :: rest) = (start ++ k, v) :: paths start rest := by
  unfold paths
  rw [leaves_other k hv, List.map_cons]
  rfl

theorem into_eq_merge (start : String) (flat : Entries Value) (es : Entries Value) :
    into start flat es = flat.merge (paths start es) := by
  induction start, flat, es using into.induct with
  | case1 start flat =>
    rw [into, paths, leaves]
    rfl
  | case2 start flat k inner rest ihinner ihrest =>
    have happend : ∀ new more : Entries Value,
        flat.merge (new ++ more) = (flat.merge new).merge more :=
      fun new more => List.foldl_append
    rw [into, ihrest, ihinner, paths_object, happend]
    congr 1
    exact Entries.merge_ofList flat _
  | case3 start flat k v rest hv ihrest =>
    rw [into, ihrest, paths_other start k hv]
    · rfl
    · exact hv

/-- The leaves are put in one by one; inner mappings need not be made flat on their own. -/
theorem flatten_eq_ofList (start : String) (es : Entries Value) :
    flatten start es = Entries.ofList (paths start es) :=
  into_eq_merge start [] es

/-- A document whose names have no point, and whose inner mappings are not empty. -/
inductive Plain : List (String × Value) → Prop
  | nil : Plain []
  | leaf {k : String} {v : Value} {rest : List (String × Value)} (hk : '.' ∉ k.toList)
    (hnew : k ∉ Entries.keys rest)
    (hv : v.isMapping = false) (h : Plain rest) : Plain ((k, v) :: rest)
  | mapping {k : String} {inner rest : List (String × Value)} (hk : '.' ∉ k.toList)
    (hnew : k ∉ Entries.keys rest)
    (hne : inner ≠ []) (hinner : Plain inner) (h : Plain rest) : Plain ((k, .object inner) :: rest)

theorem Plain.leaves_ne_nil {es : List (String × Value)} (h : Plain es) (hne : es ≠ []) :
    leaves es ≠ [] := by
  induction h with
  | nil => exact absurd rfl hne
  | leaf hk hnew hv h ih =>
    rw [leaves_other _ (Value.ne_object hv)]
    exact List.cons_ne_nil _ _
  | mapping hk hnew hinnerne hinner h ihinner ih =>
    rw [leaves_object]
    simp [ihinner hinnerne]

theorem Plain.no_point {es : List (String × Value)} (h : Plain es) :
    ∀ l ∈ leaves es, ∀ n ∈ l.1, '.' ∉ n.toList := by
  induction h with
  | nil => simp [leaves]
  | leaf hk hnew hv h ih =>
    rw [leaves_other _ (Value.ne_object hv)]
    simpa [hk] using ih
  | mapping hk hnew hne hinner h ihinner ih =>
    intro l hl
    rw [leaves_object] at hl
    rcases List.mem_append.mp hl with hin | hrest
    · obtain ⟨m, hm, rfl⟩ := List.mem_map.mp hin
      exact List.forall_mem_cons.mpr ⟨hk, ihinner m hm⟩
    · exact ih l hrest

/-- The first name of a leaf is a key. -/
theorem exists_key_of_mem_leaves {es : List (String × Value)} {names : List String} {v : Value}
    (h : (names, v) ∈ leaves es) : ∃ k ∈ Entries.keys es, ∃ more, names = k :: more := by
  induction es using leaves.induct with
  | case1 => simp [leaves] at h
  | case2 k inner rest ihinner ihrest =>
    rw [leaves_object] at h
    rcases List.mem_append.mp h with hin | hrest
    · obtain ⟨m, -, hm⟩ := List.mem_map.mp hin
      exact ⟨k, by simp, m.1, (congrArg Prod.fst hm).symm⟩
    · obtain ⟨j, hj, hnames⟩ := ihrest hrest
      exact ⟨j, by simp [hj], hnames⟩
  | case3 k w rest hw ihrest =>
    rw [leaves_other k hw] at h
    rcases List.mem_cons.mp h with heq | hrest
    · exact ⟨k, by simp, [], congrArg Prod.fst heq⟩
    · obtain ⟨j, hj, hnames⟩ := ihrest hrest
      exact ⟨j, by simp [hj], hnames⟩

theorem key_of_mem_leaves {es : List (String × Value)} {k : String} {names : List String}
    {v : Value} (h : (k :: names, v) ∈ leaves es) : k ∈ Entries.keys es := by
  obtain ⟨j, hj, more, hnames⟩ := exists_key_of_mem_leaves h
  exact (List.cons.inj hnames).1 ▸ hj

/-- No two leaves have the same names. -/
theorem Plain.nodup_leaves {es : List (String × Value)} (h : Plain es) :
    ((leaves es).map Prod.fst).Nodup := by
  induction h with
  | nil => simp [leaves]
  | @leaf k v rest hk hnew hv h ih =>
    rw [leaves_other _ (Value.ne_object hv), List.map_cons, List.nodup_cons]
    refine ⟨fun hm => ?_, ih⟩
    obtain ⟨⟨names, w⟩, hl, rfl⟩ := List.mem_map.mp hm
    exact hnew (key_of_mem_leaves hl)
  | @mapping k inner rest hk hnew hne hinner h ihinner ih =>
    have hcons : ((leaves inner).map (fun l => (k :: l.1, l.2))).map Prod.fst =
        ((leaves inner).map Prod.fst).map (k :: ·) := by
      simp
    rw [leaves_object, List.map_append, hcons, List.nodup_append]
    refine ⟨ihinner.map (List.cons_injective), ih, ?_⟩
    rintro a ha b hb rfl
    obtain ⟨names, -, rfl⟩ := List.mem_map.mp ha
    obtain ⟨⟨-, w⟩, hl, rfl⟩ := List.mem_map.mp hb
    exact hnew (key_of_mem_leaves hl)

theorem Plain.splitAt_dotted {es : List (String × Value)} (h : Plain es) {l : List String × Value}
    (hl : l ∈ leaves es) :
    Text.splitAt '.' (dotted l.1) = l.1 :=
  Text.splitAt_intercalate (ne_nil_of_mem_leaves l hl) (h.no_point l hl)

/-- The keys of a row as lists of names. -/
def split (row : Entries Value) : List (List String × Value) :=
  row.map fun e => (Text.splitAt '.' e.1, e.2)

theorem Plain.split_paths {es : Entries Value} (h : Plain es) :
    split (paths "" es) = leaves es := by
  unfold split paths
  rw [List.map_map]
  conv_rhs => rw [← List.map_id (leaves es)]
  apply List.map_congr_left
  intro l hl
  simp only [Function.comp_apply, String.empty_append, h.splitAt_dotted hl]
  rfl

theorem Plain.nodup_paths {es : Entries Value} (h : Plain es) : (paths "" es).keys.Nodup := by
  have hsplit : (paths "" es).keys.map (Text.splitAt '.') = (leaves es).map Prod.fst := by
    rw [← h.split_paths]
    simp [Entries.keys, split]
  exact List.Nodup.of_map _ (hsplit ▸ h.nodup_leaves)

theorem Plain.flatten_eq {es : Entries Value} (h : Plain es) : flatten "" es = paths "" es := by
  rw [flatten_eq_ofList, Entries.ofList_of_nodup h.nodup_paths]

/-- The mapping under a key; where there is none, the empty one. -/
def inside (key : String) (es : Entries Value) : Entries Value :=
  ((es.lookup key).bind Value.asObject?).getD []

/-- Put a value where some names lead. -/
def plant (value : Value) : List String → Entries Value → Entries Value
  | [], es => es
  | [k], es => Entries.put k value es
  | k :: names, es => Entries.put k (.object (plant value names (inside k es))) es

/-- Put leaves in, one after the other. -/
def grow (es : Entries Value) (ls : List (List String × Value)) : Entries Value :=
  ls.foldl (fun es l => plant l.2 l.1 es) es

/-- The nested mapping that a row tells of. -/
def nest (row : Entries Value) : Entries Value := grow [] (split row)

theorem plant_cons (v : Value) (k : String) {names : List String} (h : names ≠ [])
    (es : Entries Value) :
    plant v (k :: names) es = Entries.put k (.object (plant v names (inside k es))) es := by
  cases names with
  | nil => exact absurd rfl h
  | cons n more => rfl

theorem plant_below {k : String} {before : Entries Value} (hk : k ∉ before.keys) (v : Value)
    {names : List String} (h : names ≠ []) (es : Entries Value) :
    plant v (k :: names) (before ++ [(k, .object es)]) =
      before ++ [(k, .object (plant v names es))] := by
  have hinside : inside k (before ++ [(k, .object es)]) = es := by
    unfold inside
    rw [List.lookup_append, Entries.lookup_eq_none.mpr hk, Option.none_or, List.lookup_cons_self]
    rfl
  rw [plant_cons v k h, hinside, Entries.put_append_cons hk]

theorem grow_below {k : String} {before : Entries Value} (hk : k ∉ before.keys)
    {ls : List (List String × Value)} (h : ∀ l ∈ ls, l.1 ≠ []) (es : Entries Value) :
    grow (before ++ [(k, .object es)]) (ls.map fun l => (k :: l.1, l.2)) =
      before ++ [(k, .object (grow es ls))] := by
  induction ls generalizing es with
  | nil => rfl
  | cons l ls ih =>
    obtain ⟨hl, hls⟩ := List.forall_mem_cons.mp h
    have hstep : ∀ fs : Entries Value, grow fs (l :: ls) = grow (plant l.2 l.1 fs) ls :=
      fun _ => rfl
    rw [hstep, ← ih hls, ← plant_below hk l.2 hl]
    rfl

/-- Leaves under a new name make one new mapping, as there is one of them at least. -/
theorem grow_new {k : String} {before : Entries Value} (hk : k ∉ before.keys)
    {ls : List (List String × Value)} (hne : ls ≠ []) (h : ∀ l ∈ ls, l.1 ≠ []) :
    grow before (ls.map fun l => (k :: l.1, l.2)) = before ++ [(k, .object (grow [] ls))] := by
  cases ls with
  | nil => exact absurd rfl hne
  | cons l ls =>
    obtain ⟨hl, hls⟩ := List.forall_mem_cons.mp h
    have hinside : inside k before = [] := by
      rw [inside, Entries.lookup_eq_none.mpr hk]
      rfl
    have hfirst : plant l.2 (k :: l.1) before = before ++ [(k, .object (plant l.2 l.1 []))] := by
      rw [plant_cons l.2 k hl, hinside, Entries.put_of_not_mem hk]
    have hstep : grow before ((l :: ls).map fun l => (k :: l.1, l.2)) =
        grow (plant l.2 (k :: l.1) before) (ls.map fun l => (k :: l.1, l.2)) := rfl
    rw [hstep, hfirst, grow_below hk hls]
    rfl

theorem not_mem_keys_snoc {k : String} {v w : Value} {before rest : Entries Value}
    (hk : k ∉ rest.keys) (hnew : ∀ j ∈ Entries.keys ((k, v) :: rest), j ∉ before.keys) :
    ∀ j ∈ rest.keys, j ∉ Entries.keys (before ++ [(k, w)]) := by
  intro j hj
  have hne : j ≠ k := fun heq => hk (heq ▸ hj)
  simpa [hne] using hnew j (by simp [hj])

theorem Plain.grow_leaves {es : Entries Value} (h : Plain es) {before : Entries Value}
    (hnew : ∀ k ∈ es.keys, k ∉ before.keys) : grow before (leaves es) = before ++ es := by
  -- what is there already is for all, as the leaves of an inner mapping start from nothing
  induction h generalizing before with
  | nil => simp [leaves, grow]
  | @leaf k v rest hk hkrest hv h ih =>
    have hkbefore : k ∉ before.keys := hnew k (by simp)
    have hstep :
        grow before (([k], v) :: leaves rest) = grow (Entries.put k v before) (leaves rest) := rfl
    rw [leaves_other k (Value.ne_object hv), hstep, Entries.put_of_not_mem hkbefore,
      ih (not_mem_keys_snoc hkrest hnew), List.append_assoc]
    rfl
  | @mapping k inner rest hk hkrest hne hinner h ihinner ih =>
    have hkbefore : k ∉ before.keys := hnew k (by simp)
    have happend : ∀ ls ms, grow before (ls ++ ms) = grow (grow before ls) ms :=
      fun ls ms => List.foldl_append
    have hgrown : grow [] (leaves inner) = inner := ihinner (by simp)
    rw [leaves_object, happend, grow_new hkbefore (hinner.leaves_ne_nil hne) ne_nil_of_mem_leaves,
      hgrown, ih (not_mem_keys_snoc hkrest hnew), List.append_assoc]
    rfl

/-- A document whose names have no point is read off its row: the row has one entry for each leaf,
in their order and under the names that lead there, and no other; putting the leaves in where these
names lead gives the document. -/
theorem nest_flatten (es : Entries Value) (h : Plain es) :
    nest (flatten "" es) = es ∧ split (flatten "" es) = leaves es ∧ (flatten "" es).keys.Nodup ∧
      ∀ es' : Entries Value, Plain es' → flatten "" es' = flatten "" es → es' = es := by
  have hnest : ∀ fs : Entries Value, Plain fs → nest (flatten "" fs) = fs := by
    intro fs hfs
    rw [nest, hfs.flatten_eq, hfs.split_paths, hfs.grow_leaves (by simp), List.nil_append]
  refine ⟨hnest es h, ?_, ?_, ?_⟩
  · rw [h.flatten_eq, h.split_paths]
  · rw [h.flatten_eq]
    exact h.nodup_paths
  · intro es' h' hrow
    rw [← hnest es' h', hrow, hnest es h]

/-- A player of a team, with a name that is empty. -/
def player : Entries Value :=
  [("name", .text "Ann"), ("team", .object [("id", .int 2), ("", .object [("city", .null)])]),
    ("tags", .list [.object []])]

theorem nest_flatten_player : Plain player ∧ nest (flatten "" player) = player ∧
    split (flatten "" player) = [(["name"], .text "Ann"), (["team", "id"], .int 2),
      (["team", "", "city"], .null),
      (["tags"], .list [.object []])] := by
  have hcity : Plain [("city", .null)] := .leaf (by decide) (by decide) rfl .nil
  have hteam : Plain [("id", .int 2), ("", .object [("city", .null)])] :=
    .leaf (by decide) (by decide) rfl (.mapping (by decide) (by decide) (by simp) hcity .nil)
  have hplain : Plain player :=
    .leaf (by decide) (by decide) rfl (.mapping (by decide) (by decide) (by simp) hteam
      (.leaf (by decide) (by decide) rfl .nil))
  obtain ⟨hnest, hsplit, -⟩ := nest_flatten player hplain
  refine ⟨hplain, hnest, hsplit.trans ?_⟩
  simp [player, leaves]

end SearchSource.Flatten
