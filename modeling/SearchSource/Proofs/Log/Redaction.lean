import SearchSource.Log.Redaction
import SearchSource.Proofs.Value
import SearchSource.Proofs.Text.Case

/-! What a redacted event still tells. Mappings are looked into as far as they stand in mappings; a
list or a tuple passes as it is. Main statements: `process_eq_iff`, for two events, and
`censored_within`, for one value. -/
namespace SearchSource.Redaction

mutual

/-- Values that differ only under sensitive keys. Mappings inside of lists and tuples count if
`inSequences`. -/
inductive Alike (r : Redaction) (inSequences : Bool) : Value → Value → Prop
  | same (v : Value) : Alike r inSequences v v
  | object {es es' : List (String × Value)} (h : AlikeEntries r inSequences [] es es') :
    Alike r inSequences (.object es) (.object es')
  | list {vs vs' : List Value} (hin : inSequences) (h : AlikeItems r inSequences vs vs') :
    Alike r inSequences (.list vs) (.list vs')
  | tuple {vs vs' : List Value} (hin : inSequences) (h : AlikeItems r inSequences vs vs') :
    Alike r inSequences (.tuple vs) (.tuple vs')

/-- Entries that differ only under sensitive keys, and not at all below the other keys of
`skipped`. -/
inductive AlikeEntries (r : Redaction) (inSequences : Bool) :
    List String → List (String × Value) → List (String × Value) → Prop
  | nil (skipped : List String) : AlikeEntries r inSequences skipped [] []
  | sensitive {skipped : List String} {k : String} {es es' : List (String × Value)}
    (hk : Text.lower k ∈ r.sensitive) (v v' : Value)
    (h : AlikeEntries r inSequences skipped es es') :
    AlikeEntries r inSequences skipped ((k, v) :: es) ((k, v') :: es')
  | skip {skipped : List String} {k : String} {es es' : List (String × Value)}
    (hk : k ∈ skipped) (v : Value)
    (h : AlikeEntries r inSequences skipped es es') :
    AlikeEntries r inSequences skipped ((k, v) :: es) ((k, v) :: es')
  | other {skipped : List String} {k : String} {v v' : Value} {es es' : List (String × Value)}
    (hk : k ∉ skipped) (hv : Alike r inSequences v v')
    (h : AlikeEntries r inSequences skipped es es') :
    AlikeEntries r inSequences skipped ((k, v) :: es) ((k, v') :: es')

inductive AlikeItems (r : Redaction) (inSequences : Bool) : List Value → List Value → Prop
  | nil : AlikeItems r inSequences [] []
  | cons {v v' : Value} {vs vs' : List Value} (hv : Alike r inSequences v v')
    (h : AlikeItems r inSequences vs vs') :
    AlikeItems r inSequences (v :: vs) (v' :: vs')

end

/-- What becomes of a value under a key that is neither sensitive nor skipped. -/
def within (r : Redaction) : Value → Value
  | .object es => .object (r.replaced [] es)
  | v => v

/-- What becomes of the value under a key. -/
def redacted (r : Redaction) (skipped : List String) (k : String) (v : Value) : Value :=
  if Text.lower k ∈ r.sensitive then mark else if k ∈ skipped then v else r.within v

variable {r : Redaction} {skipped : List String}

theorem within_of_not_object {v : Value} (h : ∀ es, v ≠ .object es) : r.within v = v := by
  cases v with
  | object es => exact absurd rfl (h es)
  | _ => rfl

theorem replaced_cons (k : String) (v : Value) (es : Entries Value) :
    r.replaced skipped ((k, v) :: es) = (k, r.redacted skipped k v) :: r.replaced skipped es := by
  unfold redacted
  cases v with
  | object inner =>
    rw [replaced]
    simp only [isSensitive, List.contains_iff_mem]
    split
    · rfl
    · split <;> rfl
  | _ =>
    rw [replaced]
    · simp only [isSensitive, List.contains_iff_mem, within, ite_self]
      split <;> rfl
    · intro inner h
      cases h

theorem Alike.eq_of_not_object {v v' : Value} (h : Alike r false v v') (hv : ∀ es, v ≠ .object es) :
    v = v' := by
  cases h with
  | same => rfl
  | object => exact absurd rfl (hv _)
  | list hin => cases hin
  | tuple hin => cases hin

/-- Two values become the same if they are, or if they are mappings that become the same. -/
theorem within_eq_iff {v v' : Value}
    (ih : ∀ es, v = .object es → ∀ es', r.replaced [] es = r.replaced [] es' ↔
      AlikeEntries r false [] es es') :
    r.within v = r.within v' ↔ Alike r false v v' := by
  constructor
  · intro h
    -- a mapping becomes a mapping and nothing else does, so a mapping is never the same as another
    -- value
    by_cases hv : ∃ es, v = .object es
    · obtain ⟨es, rfl⟩ := hv
      by_cases hv' : ∃ es', v' = .object es'
      · obtain ⟨es', rfl⟩ := hv'
        have hreplaced : r.replaced [] es = r.replaced [] es' := Value.object.inj h
        exact .object ((ih es rfl es').mp hreplaced)
      · rw [within_of_not_object (not_exists.mp hv')] at h
        exact absurd ⟨_, h.symm⟩ hv'
    · rw [within_of_not_object (not_exists.mp hv)] at h
      by_cases hv' : ∃ es', v' = .object es'
      · obtain ⟨es', rfl⟩ := hv'
        exact absurd ⟨_, h⟩ hv
      · rw [within_of_not_object (not_exists.mp hv')] at h
        exact h ▸ .same v
  · intro h
    cases h with
    | same => rfl
    | object h =>
      have hreplaced := (ih _ rfl _).mpr h
      rw [within, within, hreplaced]
    | list hin => cases hin
    | tuple hin => cases hin

theorem redacted_eq_iff {k : String} {v v' : Value}
    (hwithin : r.within v = r.within v' ↔ Alike r false v v') :
    r.redacted skipped k v = r.redacted skipped k v' ↔
      Text.lower k ∈ r.sensitive ∨ (k ∈ skipped ∧ v = v') ∨ (k ∉ skipped ∧ Alike r false v v') := by
  unfold redacted
  by_cases hk : Text.lower k ∈ r.sensitive
  · simp [hk]
  · by_cases hs : k ∈ skipped
    · simp [hk, hs]
    · simp [hk, hs, hwithin]

theorem alikeEntries_cons_iff {inSequences : Bool} {k k' : String} {v v' : Value}
    {es es' : Entries Value} :
    AlikeEntries r inSequences skipped ((k, v) :: es) ((k', v') :: es') ↔
      k = k' ∧ AlikeEntries r inSequences skipped es es' ∧
        (Text.lower k ∈ r.sensitive ∨ (k ∈ skipped ∧ v = v') ∨
          (k ∉ skipped ∧ Alike r inSequences v v')) := by
  constructor
  · intro h
    cases h with
    | sensitive hk _ _ h => exact ⟨rfl, h, .inl hk⟩
    | skip hk _ h => exact ⟨rfl, h, .inr (.inl ⟨hk, rfl⟩)⟩
    | other hk hv h => exact ⟨rfl, h, .inr (.inr ⟨hk, hv⟩)⟩
  · rintro ⟨rfl, h, hk | ⟨hk, rfl⟩ | ⟨hk, hv⟩⟩
    · exact .sensitive hk v v' h
    · exact .skip hk v h
    · exact .other hk hv h

theorem replaced_eq_iff_cons {k : String} {v : Value} {es : Entries Value}
    (hv : ∀ v', r.within v = r.within v' ↔ Alike r false v v')
    (ih : ∀ es', r.replaced skipped es = r.replaced skipped es' ↔
      AlikeEntries r false skipped es es')
    (es' : Entries Value) :
    r.replaced skipped ((k, v) :: es) = r.replaced skipped es' ↔
      AlikeEntries r false skipped ((k, v) :: es) es' := by
  cases es' with
  | nil =>
    rw [replaced_cons, replaced]
    refine iff_of_false (List.cons_ne_nil _ _) ?_
    intro h
    cases h
  | cons e es' =>
    obtain ⟨k', v'⟩ := e
    rw [replaced_cons, replaced_cons, List.cons.injEq, Prod.mk.injEq, alikeEntries_cons_iff, ih es',
      and_assoc]
    constructor
    · rintro ⟨rfl, hvalue, h⟩
      exact ⟨rfl, h, (redacted_eq_iff (hv v')).mp hvalue⟩
    · rintro ⟨rfl, h, hvalue⟩
      exact ⟨rfl, (redacted_eq_iff (hv v')).mpr hvalue, h⟩

theorem replaced_eq_iff (r : Redaction) (skipped : List String) (es es' : Entries Value) :
    r.replaced skipped es = r.replaced skipped es' ↔ AlikeEntries r false skipped es es' := by
  -- along the recursion on the left side; the entries on the right are for all, as those of an
  -- inner mapping are others
  induction skipped, es using replaced.induct generalizing es' with
  | case1 skipped =>
    cases es' with
    | nil => exact iff_of_true rfl (.nil skipped)
    | cons e es' =>
      obtain ⟨k, v⟩ := e
      rw [replaced_cons, replaced]
      refine iff_of_false (List.cons_ne_nil _ _).symm ?_
      intro h
      cases h
  | case2 skipped k inner rest ihinner ihrest =>
    refine replaced_eq_iff_cons (fun v' => within_eq_iff ?_) ihrest es'
    rintro es ⟨⟩ es'
    exact ihinner es'
  | case3 skipped k v rest hv ihrest =>
    refine replaced_eq_iff_cons (fun v' => within_eq_iff ?_) ihrest es'
    intro es hes
    exact absurd hes (hv es)

/-! ### Failing -/

/-- What stops the work at a value that is looked at. -/
def faultWithin? (r : Redaction) : Value → Option Fault
  | .object es => r.fault? [] es
  | .keyed _ _ => some .noKeys
  | _ => none

theorem fault?_cons (k : String) (v : Value) (es : Entries Value) :
    r.fault? skipped ((k, v) :: es) =
      (if Text.lower k ∈ r.sensitive ∨ k ∈ skipped then none else r.faultWithin? v).or
        (r.fault? skipped es) := by
  cases v <;> rw [fault?] <;> simp [isSensitive, faultWithin?]

/-- Of two events that are alike, both fail or neither does. -/
theorem AlikeEntries.fault?_eq {es es' : Entries Value} (h : AlikeEntries r false skipped es es') :
    r.fault? skipped es = r.fault? skipped es' := by
  induction skipped, es using replaced.induct generalizing es' with
  | case1 skipped =>
    cases h
    rfl
  | case2 skipped k inner rest ihinner ihrest =>
    obtain _ | ⟨⟨k', v'⟩, rest'⟩ := es'
    · cases h
    obtain ⟨rfl, hrest, hvalue⟩ := alikeEntries_cons_iff.mp h
    rw [fault?_cons, fault?_cons, ihrest hrest]
    rcases hvalue with hk | ⟨hk, -⟩ | ⟨-, hv⟩
    · rw [if_pos (.inl hk), if_pos (.inl hk)]
    · rw [if_pos (.inr hk), if_pos (.inr hk)]
    · cases hv with
      | same => rfl
      | object hinner =>
        have hfault : r.faultWithin? (.object inner) = r.faultWithin? (.object _) := ihinner hinner
        rw [hfault]
  | case3 skipped k v rest hnot ihrest =>
    obtain _ | ⟨⟨k', v'⟩, rest'⟩ := es'
    · cases h
    obtain ⟨rfl, hrest, hvalue⟩ := alikeEntries_cons_iff.mp h
    rw [fault?_cons, fault?_cons, ihrest hrest]
    rcases hvalue with hk | ⟨hk, -⟩ | ⟨-, hv⟩
    · rw [if_pos (.inl hk), if_pos (.inl hk)]
    · rw [if_pos (.inr hk), if_pos (.inr hk)]
    · rw [hv.eq_of_not_object hnot]

theorem fault?_eq_none (r : Redaction) (skipped : List String) {es : Entries Value}
    (h : ∀ e ∈ es, e.2.HasTextKeys) : r.fault? skipped es = none := by
  induction skipped, es using replaced.induct with
  | case1 skipped => rw [fault?]
  | case2 skipped k inner rest ihinner ihrest =>
    obtain ⟨hv, hrest⟩ := List.forall_mem_cons.mp h
    have hinner : r.faultWithin? (.object inner) = none :=
      ihinner ((Value.hasTextKeys_object_iff inner).mp hv)
    rw [fault?_cons, hinner, ite_self, ihrest hrest, Option.or_none]
  | case3 skipped k v rest hnot ihrest =>
    obtain ⟨hv, hrest⟩ := List.forall_mem_cons.mp h
    have hwithin : r.faultWithin? v = none := by
      cases v with
      | object inner => exact absurd rfl (hnot inner)
      | keyed key w => exact absurd .whole (hv key w)
      | _ => rfl
    rw [fault?_cons, hwithin, ite_self, ihrest hrest, Option.or_none]

theorem deep_eq_ok {es ws : Entries Value} :
    r.deep skipped es = .ok ws ↔ r.fault? skipped es = none ∧ r.replaced skipped es = ws := by
  unfold deep
  cases r.fault? skipped es <;> simp

theorem deep_eq_replaced (r : Redaction) (skipped : List String) {es : Entries Value}
    (h : ∀ e ∈ es, e.2.HasTextKeys) : r.deep skipped es = .ok (r.replaced skipped es) :=
  deep_eq_ok.mpr ⟨r.fault?_eq_none skipped h, rfl⟩

/-- An event whose keys are texts is redacted. Another one comes to the same exactly if they differ
only under sensitive keys of mappings that stand in mappings. A list or a tuple, with all mappings
in it, and what is under another skipped key tell everything. -/
theorem process_eq_iff (r : Redaction) (es : Entries Value) :
    ((∀ e ∈ es, e.2.HasTextKeys) → ∃ ws, r.process es = .ok ws) ∧
      ∀ ws, r.process es = .ok ws → ∀ es', r.process es' = .ok ws ↔
        AlikeEntries r false r.skipped es es' := by
  refine ⟨fun h => ⟨_, r.deep_eq_replaced r.skipped h⟩, fun ws hws es' => ?_⟩
  obtain ⟨hfault, rfl⟩ := deep_eq_ok.mp hws
  rw [process, deep_eq_ok]
  constructor
  · rintro ⟨-, hsame⟩
    exact (replaced_eq_iff r _ _ _).mp hsame.symm
  · intro hes
    exact ⟨hes.fault?_eq ▸ hfault, ((replaced_eq_iff r _ _ _).mpr hes).symm⟩

theorem mem_sensitive_defaults {key : String} (h : key.toList.all Text.isAscii)
    (skipped : List String) :
    Text.lower key ∈ (ofFields [] skipped).sensitive ↔
      String.ofList (key.toList.map Char.toLower) ∈ defaultSensitive := by
  have hlower : ∀ f ∈ defaultSensitive, f.toList.all Text.isAscii ∧
      String.ofList (f.toList.map Char.toLower) = f := by
    decide
  have hdefaults : defaultSensitive.map Text.lower = defaultSensitive.map id :=
    List.map_congr_left fun f hf => (Text.lower_of_ascii (hlower f hf).1).trans (hlower f hf).2
  have hsensitive : (ofFields [] skipped).sensitive = defaultSensitive.map Text.lower := rfl
  rw [hsensitive, hdefaults, List.map_id, Text.lower_of_ascii h]

theorem sensitive_password (skipped : List String) :
    Text.lower "password" ∈ (ofFields [] skipped).sensitive :=
  (mem_sensitive_defaults (by decide) _).mpr (by decide)

theorem hasTextKeys_password (password : String) :
    Value.HasTextKeys (.object [("password", .text password)]) :=
  (Value.hasTextKeys_object_iff _).mpr (List.forall_mem_singleton.mpr (Value.hasTextKeys_text _))

/-- A connection to a node. -/
def nodeEvent (password : String) : Entries Value :=
  [("node", .object [("password", .text password)])]

theorem process_eq_iff_nodeEvent :
    ∃ ws, (ofFields [] defaultSkipped).process (nodeEvent "changeme") = .ok ws ∧
      (ofFields [] defaultSkipped).process (nodeEvent "hunter2") = .ok ws := by
  have hkeys : ∀ e ∈ nodeEvent "changeme", e.2.HasTextKeys :=
    List.forall_mem_singleton.mpr (hasTextKeys_password _)
  obtain ⟨hprocess, hsame⟩ := process_eq_iff (ofFields [] defaultSkipped) (nodeEvent "changeme")
  obtain ⟨ws, hws⟩ := hprocess hkeys
  refine ⟨ws, hws, (hsame ws hws _).mpr (.other (by decide) (.object ?_) (.nil _))⟩
  exact .sensitive (sensitive_password _) _ _ (.nil _)

/-- A connection to one node of a cluster. -/
def connectEvent (password : String) : Entries Value :=
  [("event", .text "connect"), ("nodes", .list [.object [("password", .text password)]])]

theorem hasTextKeys_connectEvent (password : String) :
    ∀ e ∈ connectEvent password, e.2.HasTextKeys := by
  refine List.forall_mem_cons.mpr ⟨Value.hasTextKeys_text _, List.forall_mem_singleton.mpr ?_⟩
  exact Value.hasTextKeys_list _

/-- A password in a mapping inside of a list passes. -/
theorem connectEvent_tells_password :
    AlikeEntries (ofFields [] defaultSkipped) true defaultSkipped (connectEvent "changeme")
      (connectEvent "hunter2") ∧
      (ofFields [] defaultSkipped).process (connectEvent "changeme") ≠
        (ofFields [] defaultSkipped).process (connectEvent "hunter2") := by
  constructor
  · have hnode : Alike (ofFields [] defaultSkipped) true (.object [("password", .text "changeme")])
        (.object [("password", .text "hunter2")]) :=
      .object (.sensitive (sensitive_password _) _ _ (.nil _))
    exact .other (by decide) (.same _) (.other (by decide) (.list rfl (.cons hnode .nil)) (.nil _))
  · intro h
    have hnodes : Text.lower "nodes" ∉ (ofFields [] defaultSkipped).sensitive :=
      mt (mem_sensitive_defaults (by decide) _).mp (by decide)
    rw [process, process, deep_eq_replaced _ _ (hasTextKeys_connectEvent _),
      deep_eq_replaced _ _ (hasTextKeys_connectEvent _)] at h
    obtain ⟨-, hrest, -⟩ :=
      alikeEntries_cons_iff.mp ((replaced_eq_iff _ _ _ _).mp (Except.ok.inj h))
    obtain ⟨-, -, hs | ⟨hs, -⟩ | ⟨-, hv⟩⟩ := alikeEntries_cons_iff.mp hrest
    · exact hnodes hs
    · exact absurd hs (by decide)
    · have hsame := hv.eq_of_not_object nofun
      simp at hsame

mutual

/-- What is left of a value when what stands under sensitive keys is replaced. Mappings inside of
lists and tuples count if `inSequences`. -/
inductive Censored (r : Redaction) (inSequences : Bool) : Value → Value → Prop
  | object {es ws : List (String × Value)} (h : CensoredEntries r inSequences es ws) :
    Censored r inSequences (.object es) (.object ws)
  | list {vs ws : List Value} (hin : inSequences) (h : CensoredItems r inSequences vs ws) :
    Censored r inSequences (.list vs) (.list ws)
  | tuple {vs ws : List Value} (hin : inSequences) (h : CensoredItems r inSequences vs ws) :
    Censored r inSequences (.tuple vs) (.tuple ws)
  | whole {v : Value} (hobject : ∀ es, v ≠ .object es)
    (hsequence : inSequences → v.asSequence? = none) :
    Censored r inSequences v v

inductive CensoredEntries (r : Redaction) (inSequences : Bool) :
    List (String × Value) → List (String × Value) → Prop
  | nil : CensoredEntries r inSequences [] []
  | sensitive {k : String} {es ws : List (String × Value)}
    (hk : Text.lower k ∈ r.sensitive) (v : Value)
    (h : CensoredEntries r inSequences es ws) :
      CensoredEntries r inSequences ((k, v) :: es) ((k, mark) :: ws)
  | other {k : String} {v w : Value} {es ws : List (String × Value)}
    (hk : Text.lower k ∉ r.sensitive) (hv : Censored r inSequences v w)
    (h : CensoredEntries r inSequences es ws) :
    CensoredEntries r inSequences ((k, v) :: es) ((k, w) :: ws)

inductive CensoredItems (r : Redaction) (inSequences : Bool) : List Value → List Value → Prop
  | nil : CensoredItems r inSequences [] []
  | cons {v w : Value} {vs ws : List Value} (hv : Censored r inSequences v w)
    (h : CensoredItems r inSequences vs ws) :
    CensoredItems r inSequences (v :: vs) (w :: ws)

end

/-- Nothing is left of a value under a sensitive key. -/
theorem CensoredEntries.head?_of_sensitive {inSequences : Bool} {k : String} {v : Value}
    {es ws : Entries Value} (h : CensoredEntries r inSequences ((k, v) :: es) ws)
    (hk : Text.lower k ∈ r.sensitive) :
    ws.head? = some (k, mark) := by
  cases h with
  | sensitive => rfl
  | other hns => exact absurd hk hns

theorem replaced_eq_map (skipped : List String) (es : Entries Value) :
    r.replaced skipped es = es.map fun e => (e.1, r.redacted skipped e.1 e.2) := by
  induction es with
  | nil => rw [replaced, List.map_nil]
  | cons e es ih => rw [replaced_cons, ih, List.map_cons]

theorem censoredEntries_cons {k : String} {v : Value} {es : Entries Value}
    (hv : Censored r false v (r.within v)) (h : CensoredEntries r false es (r.replaced [] es)) :
    CensoredEntries r false ((k, v) :: es) (r.replaced [] ((k, v) :: es)) := by
  rw [replaced_cons, redacted]
  split
  · next hk => exact .sensitive hk v h
  · next hk =>
    rw [if_neg List.not_mem_nil]
    exact .other hk hv h

theorem censored_of_not_object {v : Value} (hv : ∀ es, v ≠ .object es) :
    Censored r false v (r.within v) := by
  rw [within_of_not_object hv]
  exact .whole hv nofun

theorem censoredEntries_replaced (es : Entries Value) :
    CensoredEntries r false es (r.replaced [] es) := by
  -- along the recursion with no key skipped, as it goes on inside of a mapping
  generalize hskipped : ([] : List String) = skipped
  induction skipped, es using replaced.induct with
  | case1 skipped =>
    rw [replaced]
    exact .nil
  | case2 skipped k inner rest ihinner ihrest =>
    subst hskipped
    exact censoredEntries_cons (.object (ihinner rfl)) (ihrest rfl)
  | case3 skipped k v rest hv ihrest =>
    subst hskipped
    exact censoredEntries_cons (censored_of_not_object hv) (ihrest rfl)

theorem censored_within (v : Value) : Censored r false v (r.within v) := by
  by_cases hv : ∃ es, v = .object es
  · obtain ⟨es, rfl⟩ := hv
    exact .object (censoredEntries_replaced es)
  · exact censored_of_not_object (not_exists.mp hv)

theorem lookup_replaced (skipped : List String) (es : Entries Value) (k : String) :
    (r.replaced skipped es).lookup k = (es.lookup k).map (r.redacted skipped k) := by
  rw [replaced_eq_map, Entries.lookup_map]

theorem keys_replaced (skipped : List String) (es : Entries Value) :
    Entries.keys (r.replaced skipped es) = es.keys := by
  rw [replaced_eq_map, Entries.keys, List.map_map]
  rfl

section Values

variable {P : Value → Prop} {R : List String → Prop} (hmark : P mark)
  (hobject : ∀ es : Entries Value, P (.object es) ↔ R es.keys ∧ ∀ e ∈ es, P e.2)

include hmark hobject

/-- Redaction leaves values of a kind that mappings have by their keys and their values. -/
theorem forall_mem_replaced (skipped : List String) (es : Entries Value) (h : ∀ e ∈ es, P e.2) :
    ∀ e ∈ r.replaced skipped es, P e.2 := by
  have hredacted : ∀ {skipped : List String} {k : String} {v : Value}, P v → P (r.within v) →
      P (r.redacted skipped k v) := by
    intro skipped k v hv hw
    unfold redacted
    split
    · exact hmark
    · split
      · exact hv
      · exact hw
  induction skipped, es using replaced.induct with
  | case1 skipped =>
    rw [replaced]
    exact List.forall_mem_nil _
  | case2 skipped k inner rest ihinner ihrest =>
    obtain ⟨hv, hrest⟩ := List.forall_mem_cons.mp h
    obtain ⟨hkeys, hinner⟩ := (hobject inner).mp hv
    have hwithin : P (r.within (.object inner)) :=
      (hobject (r.replaced [] inner)).mpr ⟨(keys_replaced [] inner).symm ▸ hkeys, ihinner hinner⟩
    rw [replaced_cons]
    exact List.forall_mem_cons.mpr ⟨hredacted hv hwithin, ihrest hrest⟩
  | case3 skipped k v rest hnot ihrest =>
    obtain ⟨hv, hrest⟩ := List.forall_mem_cons.mp h
    rw [replaced_cons]
    exact List.forall_mem_cons.mpr
      ⟨hredacted hv ((within_of_not_object hnot).symm ▸ hv), ihrest hrest⟩

end Values

end SearchSource.Redaction
