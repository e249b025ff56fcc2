import SearchSource.Log.Pipeline
import SearchSource.Proofs.Log.Redaction
import SearchSource.Proofs.Value

/-! Redaction told by the paths that lead to nested mappings, and redactions one behind the other.
Main statement: `deep_by_path`. -/
namespace SearchSource.Redaction

/-- The mapping that keys lead to, each of them in the mapping under the one before. -/
def mappingAt : List String → Entries Value → Option (Entries Value)
  | [], es => some es
  | k :: path, es => (es.lookup k).bind fun v => v.asObject?.bind (mappingAt path)

/-- The keys that are skipped in the mapping that a path leads to. -/
def skippedAt (skipped : List String) : List String → List String
  | [] => skipped
  | _ :: _ => []

section Entry

variable (r : Redaction) (skipped : List String)

/-- The path has no sensitive key in it and does not begin with a skipped one. -/
def Enters (path : List String) : Prop :=
  (∀ k ∈ path, Text.lower k ∉ r.sensitive) ∧ ∀ k ∈ path.head?, k ∉ skipped

/-- What becomes of an entry in a mapping with these skipped keys. -/
structure Becomes (e e' : String × Value) : Prop where
  key : e'.1 = e.1
  sensitive : Text.lower e.1 ∈ r.sensitive → e'.2 = mark
  kept : Text.lower e.1 ∉ r.sensitive → e.1 ∈ skipped ∨ e.2.isMapping = false → e'.2 = e.2
  mapping : Text.lower e.1 ∉ r.sensitive → ∀ inner, e.2 = .object inner →
    ∃ inner', e'.2 = .object inner'

end Entry

variable {r a b u : Redaction} {skipped : List String}

theorem skippedAt_nil (path : List String) : skippedAt [] path = [] := by
  cases path <;> rfl

/-! ### Paths -/

theorem redacted_of_entered {k : String} (hsensitive : Text.lower k ∉ r.sensitive)
    (hskipped : k ∉ skipped) :
    r.redacted skipped k = r.within := by
  funext v
  rw [redacted, if_neg hsensitive, if_neg hskipped]

theorem asObject?_within (v : Value) :
    (r.within v).asObject? = v.asObject?.map (r.replaced []) := by
  cases v <;> rfl

/-- The mapping at the end of a path is redacted like one at the top, with no key skipped. -/
theorem mappingAt_replaced {path : List String} (h : r.Enters skipped path) (es : Entries Value) :
    mappingAt path (r.replaced skipped es) =
      (mappingAt path es).map (r.replaced (skippedAt skipped path)) := by
  induction path generalizing skipped es with
  | nil => rfl
  | cons k path ih =>
    obtain ⟨hsensitive, hskipped⟩ := h
    obtain ⟨hk, hpath⟩ := List.forall_mem_cons.mp hsensitive
    have hinner (inner : Entries Value) :
        mappingAt path (r.replaced [] inner) = (mappingAt path inner).map (r.replaced []) := by
      rw [ih ⟨hpath, fun _ _ => List.not_mem_nil⟩, skippedAt_nil]
    rw [mappingAt, mappingAt, replaced_eq_map, Entries.lookup_map,
      redacted_of_entered hk (hskipped k rfl), skippedAt]
    cases es.lookup k with
    | none => rfl
    | some v =>
      rw [Option.map_some, Option.bind_some, Option.bind_some, asObject?_within]
      cases v.asObject? with
      | none => rfl
      | some inner => exact hinner inner

theorem becomes_redacted (e : String × Value) :
    r.Becomes skipped e (e.1, r.redacted skipped e.1 e.2) where
  key := rfl
  sensitive hk := if_pos hk
  kept hk hkept := by
    rw [redacted, if_neg hk]
    by_cases hs : e.1 ∈ skipped
    · rw [if_pos hs]
    · rw [if_neg hs, within_of_not_object (Value.ne_object (hkept.resolve_left hs))]
  mapping hk inner hv := by
    rw [redacted, if_neg hk, hv]
    split
    · exact ⟨inner, rfl⟩
    · exact ⟨r.replaced [] inner, rfl⟩

theorem forall₂_becomes (skipped : List String) (es : Entries Value) :
    List.Forall₂ (r.Becomes skipped) es (r.replaced skipped es) := by
  rw [replaced_eq_map, List.forall₂_map_right_iff, List.forall₂_same]
  exact fun e _ => becomes_redacted e

/-! ### Composition -/

section Union

variable (h : ∀ n, n ∈ u.sensitive ↔ n ∈ a.sensitive ∨ n ∈ b.sensitive)

include h

/-- The mark is no mapping, so it does not matter which of the two redactions puts it. -/
theorem redacted_redacted {k : String} {v : Value} (hv : b.within (a.within v) = u.within v) :
    b.redacted skipped k (a.redacted skipped k v) = u.redacted skipped k v := by
  have hmark : b.redacted skipped k mark = mark := by
    unfold redacted
    split
    · rfl
    · split <;> rfl
  by_cases ha : Text.lower k ∈ a.sensitive
  · have hu := (h _).mpr (.inl ha)
    rw [redacted.eq_1 a, if_pos ha, hmark, redacted, if_pos hu]
  · by_cases hb : Text.lower k ∈ b.sensitive
    · have hu := (h _).mpr (.inr hb)
      rw [redacted, if_pos hb, redacted, if_pos hu]
    · have hu := mt (h _).mp (not_or.mpr ⟨ha, hb⟩)
      rw [redacted, redacted, redacted, if_neg ha, if_neg hb, if_neg hu]
      split
      · rfl
      · exact hv

theorem replaced_replaced (skipped : List String) (es : Entries Value) :
    b.replaced skipped (a.replaced skipped es) = u.replaced skipped es := by
  induction skipped, es using replaced.induct with
  | case1 skipped => rw [replaced, replaced, replaced]
  | case2 skipped k inner rest ihinner ihrest =>
    have hv : b.within (a.within (.object inner)) = u.within (.object inner) :=
      congrArg Value.object ihinner
    rw [replaced_cons, replaced_cons, replaced_cons, redacted_redacted h hv, ihrest]
  | case3 skipped k v rest hnot ihrest =>
    have hv : b.within (a.within v) = u.within v := by
      rw [within_of_not_object hnot, within_of_not_object hnot, within_of_not_object hnot]
    rw [replaced_cons, replaced_cons, replaced_cons, redacted_redacted h hv, ihrest]

end Union

theorem replaced_idem (skipped : List String) (es : Entries Value) :
    r.replaced skipped (r.replaced skipped es) = r.replaced skipped es :=
  replaced_replaced (fun _ => (or_self_iff).symm) skipped es

theorem mem_sensitive_ofFields {fields : List String} (hf : fields ≠ []) {skipped : List String}
    {n : String} :
    n ∈ (ofFields fields skipped).sensitive ↔ ∃ f ∈ fields, Text.lower f = n := by
  rw [ofFields, if_neg (by simpa using hf), List.mem_map]

/-- Two redactions in turn are one with the names of both. -/
theorem replaced_ofFields {fields more all : List String} (hf : fields ≠ []) (hm : more ≠ [])
    (hall : ∀ n, n ∈ all ↔ n ∈ fields ∨ n ∈ more) (s skipped : List String) (es : Entries Value) :
    (ofFields more s).replaced skipped ((ofFields fields s).replaced skipped es) =
      (ofFields all s).replaced skipped es := by
  obtain ⟨f, hmem⟩ := List.exists_mem_of_ne_nil _ hf
  have ha : all ≠ [] := List.ne_nil_of_mem ((hall f).mpr (.inl hmem))
  refine replaced_replaced (fun n => ?_) skipped es
  simp only [mem_sensitive_ofFields hf, mem_sensitive_ofFields hm, mem_sensitive_ofFields ha, hall,
    or_and_right, exists_or]

theorem dropSearch_replaced (method : String) (skipped : List String) (es : Entries Value) :
    LogPipeline.dropSearch method (r.replaced skipped es) =
      r.replaced skipped (LogPipeline.dropSearch method es) := by
  unfold LogPipeline.dropSearch
  split
  · rfl
  · rw [replaced_eq_map, replaced_eq_map, Entries.drop, Entries.drop, List.filter_map]
    rfl

theorem hasTextKeys_replaced (r : Redaction) (skipped : List String) {es : Entries Value}
    (h : ∀ e ∈ es, e.2.HasTextKeys) : ∀ e ∈ r.replaced skipped es, e.2.HasTextKeys :=
  forall_mem_replaced (R := fun _ => True) (Value.hasTextKeys_text _)
    (fun inner => by rw [Value.hasTextKeys_object_iff, true_and]) skipped es h

theorem shallow_eq_replaced {es : Entries Value} (h : ∀ e ∈ es, e.2.isMapping = false)
    (skipped : List String) :
    r.shallow es = r.replaced skipped es := by
  rw [shallow, replaced_eq_map]
  refine List.map_congr_left fun e he => ?_
  have hv : r.within e.2 = e.2 := within_of_not_object (Value.ne_object (h e he))
  simp only [isSensitive, List.contains_iff_mem, redacted, hv, ite_self]
  split <;> rfl

/-- An event whose keys are texts is redacted. In every mapping that redaction enters all keys stay
where they are, the values under sensitive ones become the mark, and all other values that are no
mappings, or are skipped, stay as they are. Redaction twice is redaction once, two redactions are
one with the names of both, it does not matter whether the body of a search is dropped before or
after, and without nested mappings it is enough to look at the top. -/
theorem deep_by_path (r : Redaction) (skipped : List String) {es : Entries Value}
    (h : ∀ e ∈ es, e.2.HasTextKeys) :
    ∃ ws, r.deep skipped es = .ok ws ∧
      (∀ path, r.Enters skipped path →
        Option.Rel (List.Forall₂ (r.Becomes (skippedAt skipped path))) (mappingAt path es)
          (mappingAt path ws)) ∧
      r.deep skipped ws = .ok ws ∧
      (∀ fields more all s, fields ≠ [] → more ≠ [] → (∀ n, n ∈ all ↔ n ∈ fields ∨ n ∈ more) →
        (ofFields fields s).deep skipped es >>= (ofFields more s).deep skipped =
          (ofFields all s).deep skipped es) ∧
      (∀ method, LogPipeline.dropSearch method <$> r.process es =
        r.process (LogPipeline.dropSearch method es)) ∧
      ((∀ e ∈ es, e.2.isMapping = false) → r.shallow es = ws) := by
  refine ⟨_, r.deep_eq_replaced skipped h, ?paths, ?again, ?union, ?search, fun h =>
    shallow_eq_replaced h skipped⟩
  case paths =>
    intro path hpath
    rw [mappingAt_replaced hpath]
    cases mappingAt path es with
    | none => exact .none
    | some d => exact .some (forall₂_becomes _ d)
  case again =>
    rw [deep_eq_replaced r skipped (hasTextKeys_replaced r skipped h), replaced_idem]
  case union =>
    intro fields more all s hf hm hall
    rw [deep_eq_replaced _ skipped h, deep_eq_replaced _ skipped h, ← replaced_ofFields hf hm hall]
    exact deep_eq_replaced _ skipped (hasTextKeys_replaced _ skipped h)
  case search =>
    intro method
    have hdropped : ∀ e ∈ LogPipeline.dropSearch method es, e.2.HasTextKeys := by
      unfold LogPipeline.dropSearch
      split
      · exact h
      · exact fun e he => h e (List.mem_of_mem_filter he)
    rw [process, process, deep_eq_replaced _ _ h, deep_eq_replaced _ _ hdropped,
      ← dropSearch_replaced]
    rfl

/-- A search on a node, with a token of the node and one in the body. -/
def searchEvent : Entries Value :=
  [("node", .object [("token", .text "t"), ("port", .int 9200)]),
    ("search", .object [("token", .text "abc")])]

theorem hasTextKeys_searchEvent : ∀ e ∈ searchEvent, e.2.HasTextKeys := by
  have hport : Value.HasTextKeys (.int 9200) := by
    rintro k w ⟨⟩
  simp only [searchEvent, List.forall_mem_cons, Value.hasTextKeys_object_iff]
  exact ⟨⟨Value.hasTextKeys_text _, hport, nofun⟩, ⟨Value.hasTextKeys_text _, nofun⟩, nofun⟩

theorem deep_by_path_searchEvent :
    (∃ ws, (ofFields [] defaultSkipped).deep defaultSkipped searchEvent = .ok ws ∧
        mappingAt ["node"] ws = some [("token", mark), ("port", .int 9200)]) ∧
      (ofFields ["token"] []).deep [] searchEvent >>= (ofFields ["port", "Token"] []).deep [] =
        (ofFields ["token", "port", "Token"] []).deep [] searchEvent ∧
      (ofFields [] []).deep [] [("token", .text "t")] =
        .ok ((ofFields [] []).shallow [("token", .text "t")]) := by
  have hdefault {key : String} (hascii : key.toList.all Text.isAscii)
      (h : String.ofList (key.toList.map Char.toLower) ∉ defaultSensitive) :
      Text.lower key ∉ (ofFields [] defaultSkipped).sensitive :=
        mt (mem_sensitive_defaults hascii _).mp h
  have htoken : Text.lower "token" ∈ (ofFields [] defaultSkipped).sensitive :=
    (mem_sensitive_defaults (by decide) _).mpr (by decide)
  refine ⟨?path, ?union, ?flat⟩
  case path =>
    have hnode : (ofFields [] defaultSkipped).Enters defaultSkipped ["node"] := by
      refine ⟨List.forall_mem_singleton.mpr (hdefault (by decide) (by decide)), ?_⟩
      rintro _ ⟨⟩
      decide
    obtain ⟨ws, hws, hpaths, -⟩ :=
      deep_by_path (ofFields [] defaultSkipped) defaultSkipped hasTextKeys_searchEvent
    have hrel := hpaths ["node"] hnode
    have hinput :
        mappingAt ["node"] searchEvent = some [("token", .text "t"), ("port", .int 9200)] := rfl
    rw [hinput] at hrel
    refine ⟨ws, hws, ?_⟩
    generalize mappingAt ["node"] ws = found at hrel ⊢
    cases hrel with
    | @some _ d hd =>
      rw [List.forall₂_cons_left_iff] at hd
      obtain ⟨e, _, htold, hrest, rfl⟩ := hd
      rw [List.forall₂_cons_left_iff] at hrest
      obtain ⟨e', _, hport, hrest, rfl⟩ := hrest
      obtain rfl := List.forall₂_nil_left_iff.mp hrest
      have hmarked : e = ("token", mark) := Prod.ext htold.key (htold.sensitive htoken)
      have hkept : e' = ("port", .int 9200) :=
        Prod.ext hport.key (hport.kept (hdefault (by decide) (by decide)) (.inr rfl))
      rw [hmarked, hkept]
  case union =>
    obtain ⟨-, -, -, -, hunion, -⟩ := deep_by_path (ofFields [] []) [] hasTextKeys_searchEvent
    exact hunion _ _ _ _ (by decide) (by decide) (by simp)
  case flat =>
    have hkeys : ∀ e ∈ [("token", Value.text "t")], e.2.HasTextKeys :=
      List.forall_mem_singleton.mpr (Value.hasTextKeys_text _)
    obtain ⟨ws, hws, -, -, -, -, hflat⟩ := deep_by_path (ofFields [] []) [] hkeys
    rw [hws, hflat (List.forall_mem_singleton.mpr rfl)]

end SearchSource.Redaction
