import SearchSource.Json.Reader
import SearchSource.Proofs.Entries
import SearchSource.Proofs.Except

/-! What the reader can give: plain values, and mappings in which no key comes twice. Main
statement: `told_of_read`. -/
namespace SearchSource.Json

/-- The values that a JSON text can tell. -/
inductive Told : Value → Prop
  | null : Told .null
  | bool (b : Bool) : Told (.bool b)
  | int (n : Int) : Told (.int n)
  | float (x : Float) : Told (.float x)
  | text (s : String) : Told (.text s)
  | list {vs : List Value} (h : ∀ v ∈ vs, Told v) : Told (.list vs)
  | object {es : List (String × Value)} (hkeys : (Entries.keys es).Nodup) (h : ∀ e ∈ es, Told e.2) :
    Told (.object es)

theorem Told.eq_text_of_asText? {v : Value} (h : Told v) {s : String} (hs : v.asText? = some s) :
    v = .text s := by
  cases h with
  | text t => exact congrArg Value.text (Option.some.inj hs)
  | _ => cases hs

/-- Only what is made of other values cannot be a key. -/
theorem Told.canBeKey_eq_false_iff {v : Value} (h : Told v) :
    v.canBeKey = false ↔ (∃ vs, v = .list vs) ∨ ∃ es, v = .object es := by
  cases h <;> simp [Value.canBeKey]

theorem told_of_readWord? {c c' : Cursor} {v : Value} (h : readWord? c = some (v, c')) :
    Told v := by
  obtain ⟨w, hw, hv⟩ := Option.map_eq_some_iff.mp h
  obtain rfl : w.2 = v := congrArg Prod.fst hv
  have hmem := List.mem_of_find?_eq_some hw
  simp only [words, List.mem_cons, List.not_mem_nil, or_false] at hmem
  rcases hmem with rfl | rfl | rfl | rfl | rfl | rfl
  · exact .null
  · exact .bool true
  · exact .bool false
  · exact .float _
  · exact .float _
  · exact .float _

theorem told_of_readNumber {c c' : Cursor} {v : Value} (h : readNumber c = .ok (v, c')) :
    Told v := by
  unfold readNumber at h
  dsimp only at h
  split at h
  · cases h
  · split at h
    · cases h
      exact .float _
    · -- a double if there is a fraction, else an integer
      split_ifs at h <;> cases h <;> constructor

/-- What the three readers give with some fuel. -/
structure ReadsTold (fuel : Nat) : Prop where
  value : ∀ c v c', readValue fuel c = .ok (v, c') → Told v
  items : ∀ read c v c', (∀ w ∈ read, Told w) → readItems fuel read c = .ok (v, c') → Told v
  entries : ∀ (read : Entries Value) c v c', read.keys.Nodup → (∀ e ∈ read, Told e.2) →
    readEntries fuel read c = .ok (v, c') → Told v

theorem told_of_readValue_succ {fuel : Nat} (ih : ReadsTold fuel) {c c' : Cursor} {v : Value}
    (h : readValue (fuel + 1) c = .ok (v, c')) : Told v := by
  unfold readValue at h
  split at h
  · obtain ⟨⟨s, c₁⟩, -, hs⟩ := Except.bind_eq_ok.mp h
    cases hs
    exact .text s
  · dsimp only at h
    split at h
    · cases h
      exact .object (by simp) (by simp)
    · exact ih.entries _ _ _ _ (by simp) (by simp) h
  · dsimp only at h
    split at h
    · cases h
      exact .list (by simp)
    · exact ih.items _ _ _ _ (by simp) h
  · cases hw : readWord? c with
    | none =>
      rw [hw] at h
      exact told_of_readNumber h
    | some w =>
      rw [hw] at h
      obtain rfl : w = (v, c') := Except.ok.inj h
      exact told_of_readWord? hw

theorem told_of_readItems_succ {fuel : Nat} (ih : ReadsTold fuel) {read : List Value}
    {c c' : Cursor} {v : Value} (hread : ∀ w ∈ read, Told w)
    (h : readItems (fuel + 1) read c = .ok (v, c')) : Told v := by
  unfold readItems at h
  obtain ⟨⟨w, c₁⟩, hw, h⟩ := Except.bind_eq_ok.mp h
  have hmore : ∀ u ∈ w :: read, Told u := List.forall_mem_cons.mpr ⟨ih.value _ _ _ hw, hread⟩
  dsimp only at h
  split at h
  · cases h
    exact .list fun u hu => hmore u (List.mem_reverse.mp hu)
  · exact ih.items _ _ _ _ hmore h
  · cases h

theorem told_of_readEntries_succ {fuel : Nat} (ih : ReadsTold fuel) {read : Entries Value}
    {c c' : Cursor} {v : Value} (hkeys : read.keys.Nodup) (hread : ∀ e ∈ read, Told e.2)
    (h : readEntries (fuel + 1) read c = .ok (v, c')) :
    Told v := by
  unfold readEntries at h
  split at h
  · obtain ⟨⟨key, c₁⟩, -, h⟩ := Except.bind_eq_ok.mp h
    dsimp only at h
    split at h
    · obtain ⟨⟨w, c₂⟩, hw, h⟩ := Except.bind_eq_ok.mp h
      have hmore : (read.put key w).keys.Nodup := Entries.nodup_keys_put hkeys key w
      have htold : ∀ e ∈ read.put key w, Told e.2 :=
        Entries.forall_mem_put (P := fun e => Told e.2) hread (ih.value _ _ _ hw)
      dsimp only at h
      split at h
      · cases h
        exact .object hmore htold
      · exact ih.entries _ _ _ _ hmore htold h
      · cases h
    · cases h
  · cases h

theorem readsTold (fuel : Nat) : ReadsTold fuel := by
  induction fuel with
  | zero =>
    refine ⟨fun c v c' h => ?_, fun read c v c' _ h => ?_, fun read c v c' _ _ h => ?_⟩
    · unfold readValue at h
      cases h
    · unfold readItems at h
      cases h
    · unfold readEntries at h
      cases h
  | succ fuel ih =>
    exact ⟨fun _ _ _ => told_of_readValue_succ ih, fun _ _ _ _ => told_of_readItems_succ ih,
      fun _ _ _ _ => told_of_readEntries_succ ih⟩

theorem told_of_read {s : String} {v : Value} (h : read s = .ok v) : Told v := by
  unfold read at h
  split at h
  · cases h
  · obtain ⟨⟨w, c⟩, hw, h⟩ := Except.bind_eq_ok.mp h
    dsimp only at h
    split at h
    · cases h
      exact (readsTold _).value _ _ _ hw
    · cases h

end SearchSource.Json
