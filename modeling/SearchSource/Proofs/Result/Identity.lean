import SearchSource.Result.Row
import SearchSource.Proofs.Result.Leaves

/-! The names that a hit has for itself stand in its row, whatever its document says, and touch
nothing else there. Main statement: `ofHit_keeps_identity`. -/
namespace SearchSource

namespace Flatten

theorem paths_append (start : String) (es fs : Entries Value) :
    paths start (es ++ fs) = paths start es ++ paths start fs := by
  induction es using leaves.induct with
  | case1 => simp [paths, leaves]
  | case2 k inner rest _ ih =>
    rw [List.cons_append, paths_object, ih, paths_object, List.append_assoc]
  | case3 k v rest hv ih =>
    rw [List.cons_append, paths_other start k hv, ih, paths_other start k hv, List.cons_append]

/-- A path without a point leads to a value at the top. -/
theorem mem_keys_of_mem_paths {name : String} (hname : '.' ∉ name.toList) {es : Entries Value}
    (h : name ∈ (paths "" es).keys) : name ∈ es.keys := by
  obtain ⟨e, he, rfl⟩ := List.mem_map.mp h
  obtain ⟨⟨names, v⟩, hl, rfl⟩ := List.mem_map.mp he
  obtain ⟨k, hk, more, rfl⟩ := exists_key_of_mem_leaves hl
  cases more with
  | nil => simpa [dotted] using hk
  | cons n more =>
    refine absurd ?_ hname
    simp [dotted_cons (List.cons_ne_nil n more)]

theorem lookup_paths_of_not_mem {name : String} (hname : '.' ∉ name.toList) {es : Entries Value}
    (h : name ∉ es.keys) :
    (paths "" es).reverse.lookup name = none := by
  have hkeys : Entries.keys (paths "" es).reverse = (paths "" es).keys.reverse := List.map_reverse
  rw [Entries.lookup_eq_none, hkeys, List.mem_reverse]
  exact fun hm => h (mem_keys_of_mem_paths hname hm)

/-- A value put under a name without a point is found there, and everything else as if nothing had
stood there. -/
theorem lookup_flatten_put {name : String} (hname : '.' ∉ name.toList) {v : Value}
    (hv : v.isMapping = false) {es : Entries Value} (hes : es.keys.Nodup) (k : String) :
    (flatten "" (es.put name v)).lookup k = if k = name then some v
      else (flatten "" (es.drop name)).lookup k := by
  obtain ⟨before, after, hput, hdrop, hafter⟩ := Entries.exists_put_eq hes name v
  have hpaths : paths "" (es.put name v) = paths "" before ++ (name, v) :: paths "" after := by
    rw [hput, paths_append, paths_other "" name (Value.ne_object hv), String.empty_append]
  -- the last of equal paths counts, so the paths are searched from behind
  rw [lookup_flatten, lookup_flatten, hpaths, hdrop, paths_append, List.reverse_append,
    List.reverse_append, List.reverse_cons, List.lookup_append, List.lookup_append,
    List.lookup_append]
  split
  · next hk => rw [hk, lookup_paths_of_not_mem hname hafter, List.lookup_cons_self,
      Option.none_or, Option.some_or]
  · next hk => rw [Entries.lookup_cons_of_ne hk, List.lookup_nil, Option.or_none]

/-- Values put under several such names. -/
theorem lookup_flatten_merge {new : Entries Value} (hnew : new.keys.Nodup)
    (hnames : ∀ k ∈ new.keys, '.' ∉ k.toList) (hvalues : ∀ e ∈ new, e.2.isMapping = false)
    {es : Entries Value} (hes : es.keys.Nodup) (k : String) :
    (flatten "" (es.merge new)).lookup k =
      (new.lookup k).or ((flatten "" (es.filter fun e => e.1 ∉ new.keys)).lookup k) := by
  induction new generalizing es with
  | nil => simp [Entries.merge]
  | cons e rest ih =>
    obtain ⟨name, v⟩ := e
    rw [Entries.keys_cons, List.nodup_cons] at hnew
    obtain ⟨hname, hrest⟩ := List.forall_mem_cons.mp hnames
    obtain ⟨hv, hvrest⟩ := List.forall_mem_cons.mp hvalues
    let others : Entries Value := es.filter fun e => e.1 ∉ Entries.keys rest
    have hothers : others.keys.Nodup := (List.filter_sublist.map _).nodup hes
    have hput : (es.put name v).filter (fun e => e.1 ∉ Entries.keys rest) = others.put name v :=
      Entries.filter_put (p := fun k => k ∉ Entries.keys rest) (by simpa using hnew.1) v es
    have hdrop : others.drop name = es.filter fun e => e.1 ∉ Entries.keys ((name, v) :: rest) := by
      simp [others, Entries.drop, List.filter_filter]
    have hstep : es.merge ((name, v) :: rest) = (es.put name v).merge rest := rfl
    rw [hstep, ih hnew.2 hrest hvrest (Entries.nodup_keys_put hes name v), hput,
      lookup_flatten_put hname hv hothers, hdrop]
    by_cases hk : k = name
    · rw [if_pos hk, hk, Entries.lookup_eq_none.mpr hnew.1, List.lookup_cons_self]
      rfl
    · rw [if_neg hk, Entries.lookup_cons_of_ne hk]

end Flatten

namespace Row

/-- The document that a hit stores; one that is missing or empty has no entries. -/
def stored? (hit : Value) : Option (Entries Value) :=
  let v := hit.entry "_source"
  if v.holds then v.asObject? else some []

/-- What a hit says of itself: its name, also when it has none, and its type if it has one. -/
def identity (hit : Value) : Entries Value :=
  ("_id", hit.entry "_id") :: match hit.entry "_type" with
    | .null => []
    | kind => [("_type", kind)]

/-- Entries under texts, as entries under keys of any type. -/
def textPairs (es : Entries Value) : Pairs := es.map fun e => (.text e.1, e.2)

theorem sameKey_text (s t : String) : sameKey (.text s) (.text t) = decide (s = t) := by
  unfold sameKey
  rfl

theorem putPair_textPairs (name : String) (v : Value) (es : Entries Value) :
    putPair (.text name) v (textPairs es) = textPairs (es.put name v) := by
  induction es with
  | nil => rfl
  | cons e rest ih =>
    obtain ⟨k, w⟩ := e
    have hcons : ∀ j u fs, textPairs ((j, u) :: fs) = (.text j, u) :: textPairs fs :=
      fun _ _ _ => rfl
    rw [hcons, putPair, sameKey_text, Entries.put]
    by_cases hk : k = name
    · simp [hk, hcons]
    · simp [hk, hcons, ih]

theorem display_textPairs (es : Entries Value) :
    (textPairs es).map (fun p => (p.1.display, p.2)) = es := by
  unfold textPairs
  rw [List.map_map]
  exact List.map_id es

/-- Texts put among texts, one after the other. -/
theorem putAll_textPairs (es new : Entries Value) :
    new.foldl (fun pairs e => putPair (.text e.1) e.2 pairs) (textPairs es) =
      textPairs (es.merge new) := by
  induction new generalizing es with
  | nil => rfl
  | cons e rest ih =>
    rw [List.foldl_cons, putPair_textPairs, ih]
    rfl

/-- The row of a hit whose document is known as entries under keys of any type. -/
theorem ofHit_of_pairs {hit : Value} (mapping : hit.isMapping) {pairs : Pairs}
    (stored : (hit.entry "_source").holds = true ∧ pairsOf (hit.entry "_source") = .ok pairs ∨
      (hit.entry "_source").holds = false ∧ pairs = []) :
    ofHit hit = .ok (Flatten.flatten ""
      (((identity hit).foldl (fun pairs e => putPair (.text e.1) e.2 pairs) pairs).map fun p =>
        (p.1.display, p.2))) := by
  unfold ofHit identity
  simp only [Value.get_eq_entry mapping, bind, Except.bind, pure, Except.pure]
  rcases stored with ⟨hholds, hpairs⟩ | ⟨hholds, rfl⟩
  · rw [if_pos hholds, hpairs]
    cases hit.entry "_type" with
    | null => rfl
    | _ => rfl
  · rw [if_neg (by simp [hholds])]
    cases hit.entry "_type" with
    | null => rfl
    | _ => rfl

theorem stored?_cases {hit : Value} {source : Entries Value} (h : stored? hit = some source) :
    (hit.entry "_source").holds = true ∧ pairsOf (hit.entry "_source") = .ok (textPairs source) ∨
      (hit.entry "_source").holds = false ∧ textPairs source = [] := by
  unfold stored? at h
  cases hholds : (hit.entry "_source").holds with
  | false =>
    simp only [hholds] at h
    obtain rfl := Option.some.inj h
    exact .inr ⟨rfl, rfl⟩
  | true =>
    simp only [hholds] at h
    refine .inl ⟨rfl, ?_⟩
    cases hv : hit.entry "_source" with
    | object es =>
      rw [hv] at h
      obtain rfl := Option.some.inj h
      rfl
    | _ =>
      rw [hv] at h
      cases h

/-- A row is the stored document with the names of the hit put over it, made flat. -/
theorem ofHit_eq {hit : Value} (mapping : hit.isMapping) {source : Entries Value}
    (stored : stored? hit = some source) :
    ofHit hit = .ok (Flatten.flatten "" (source.merge (identity hit))) := by
  rw [ofHit_of_pairs mapping (stored?_cases stored), putAll_textPairs, display_textPairs]

/-- The names of a hit are no paths into a document. -/
theorem no_point_in_identity (hit : Value) : ∀ k ∈ (identity hit).keys, '.' ∉ k.toList := by
  unfold identity
  cases hit.entry "_type" with
  | null => simp
  | _ => simp

theorem nodup_keys_identity (hit : Value) : (identity hit).keys.Nodup := by
  unfold identity
  cases hit.entry "_type" with
  | null => simp
  | _ => simp

/-- The row of a hit says of the hit what the hit says of itself, whatever its document has under
these names; and of the document it says what it would say if nothing stood there under these
names. -/
theorem ofHit_keeps_identity {hit : Value} {source : Entries Value} (mapping : hit.isMapping)
    (stored : stored? hit = some source) (distinct : source.keys.Nodup)
    (plain : ∀ e ∈ identity hit, e.2.isMapping = false) :
    ∃ row, ofHit hit = .ok row ∧ (∀ e ∈ identity hit, row.lookup e.1 = some e.2) ∧
      ∀ k ∉ (identity hit).keys,
        row.lookup k = (Flatten.flatten ""
          (source.filter fun e => e.1 ∉ (identity hit).keys)).lookup k := by
  have hlookup :=
    Flatten.lookup_flatten_merge (nodup_keys_identity hit) (no_point_in_identity hit) plain distinct
  refine ⟨_, ofHit_eq mapping stored, fun e he => ?named, fun k hk => ?others⟩
  case named => rw [hlookup, Entries.lookup_of_mem (nodup_keys_identity hit) he, Option.some_or]
  case others => rw [hlookup, Entries.lookup_eq_none.mpr hk, Option.none_or]

/-- A document with another name in it, a mapping under the name of the type, and a path that begins
with a name. -/
def contestedDocument : Entries Value :=
  [("_id", .text "stale"), ("depth", .int 9), ("_type", .object [("kind", .null)]),
    ("_id.note", .int 1)]

def contested : Value :=
  .object [("_id", .text "real"), ("_type", .text "port"), ("_source", .object contestedDocument)]

theorem ofHit_keeps_identity_contested :
    ∃ row, ofHit contested = .ok row ∧ row.lookup "_id" = some (.text "real") ∧
      row.lookup "_type" = some (.text "port") ∧
      row.lookup "_id.note" = some (.int 1) ∧ row.lookup "_type.kind" = none := by
  have hidentity : identity contested = [("_id", .text "real"), ("_type", .text "port")] := rfl
  have hrest :
      Flatten.flatten "" (contestedDocument.filter fun e => e.1 ∉ (identity contested).keys) =
      [("depth", .int 9), ("_id.note", .int 1)] := by
    simp [contestedDocument, hidentity, Flatten.flatten, Flatten.into, Entries.put]
  obtain ⟨row, hrow, hnamed, hothers⟩ := @ofHit_keeps_identity contested contestedDocument rfl rfl
    (by decide) (by simp [hidentity, Value.isMapping])
  rw [hrest] at hothers
  exact ⟨row, hrow, hnamed ("_id", .text "real") (by simp [hidentity]),
    hnamed ("_type", .text "port") (by simp [hidentity]), hothers "_id.note" (by decide),
    hothers "_type.kind" (by decide)⟩

end Row
end SearchSource
