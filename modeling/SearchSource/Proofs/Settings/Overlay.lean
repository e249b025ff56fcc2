import SearchSource.Proofs.Settings.Loading
import SearchSource.Proofs.Settings.PlainFile

/-! Environments that the variables of a file are put into. What is set stays unless the file
overrides it, and putting the same variables in again changes nothing. Main statement:
`readsPlain_read`. -/
namespace SearchSource.EnvFile

/-- The variables of a file stand beside those of an environment; of two values the file's counts if
it overrides. -/
def Overlays (override : Bool) (file : Entries String) (env env' : Environment) : Prop :=
  ∀ name, env'.lookup name =
    if override then (file.lookup name).or (env.lookup name)
    else (env.lookup name).or (file.lookup name)

section SetAll

variable {override : Bool} {file : Entries String} {env env' : Environment}

theorem setAll_overlays (override : Bool) (hn : file.keys.Nodup)
    (hset : ∀ e ∈ file, canBeSet e.1 e.2) (env : Environment) :
    ∃ env', setAll override (assigned file) env = .ok env' ∧ Overlays override file env env' := by
  -- for all environments, as each variable is put into the one that those before it leave
  induction file generalizing env with
  | nil => exact ⟨env, rfl, fun name => by cases override <;> simp⟩
  | cons e rest ih =>
    obtain ⟨key, value⟩ := e
    rw [Entries.keys_cons, List.nodup_cons] at hn
    obtain ⟨hfirst, hrest⟩ := List.forall_mem_cons.mp hset
    by_cases hkept : (!override && Entries.has key env) = true
    · obtain ⟨env', happly, hoverlays⟩ := ih hn.2 hrest env
      refine ⟨env', ?_, fun name => ?_⟩
      · rw [← happly, assigned, List.map_cons, setAll, if_pos hkept]
        rfl
      · obtain ⟨hoverride, hhas⟩ := Bool.and_eq_true_iff.mp hkept
        obtain ⟨old, hold⟩ := Option.isSome_iff_exists.mp hhas
        rw [Bool.not_eq_true'] at hoverride
        rw [hoverlays name, hoverride]
        by_cases hname : name = key
        · simp [hname, hold]
        · simp [Entries.lookup_cons_of_ne hname]
    · obtain ⟨env', happly, hoverlays⟩ := ih hn.2 hrest (env.put key value)
      refine ⟨env', ?_, fun name => ?_⟩
      · rw [← happly, assigned, List.map_cons, setAll, if_neg hkept, if_pos hfirst]
        rfl
      · rw [hoverlays name, Entries.lookup_put]
        by_cases hname : name = key
        · subst hname
          have hrest : rest.lookup name = none := Entries.lookup_eq_none.mpr hn.1
          cases override with
          | true => simp [hrest]
          | false =>
            have hold : env.lookup name = none := Option.not_isSome_iff_eq_none.mp hkept
            simp [hold]
        · simp [hname, Entries.lookup_cons_of_ne hname]

/-- What has been put in already is put in once more. -/
theorem Overlays.again (h : Overlays override file env env') :
    Overlays override file env' env' := by
  intro name
  rw [h name]
  cases override <;> cases file.lookup name <;> cases env.lookup name <;> rfl

end SetAll

theorem overlays_nil (override : Bool) (env : Environment) : Overlays override [] env env :=
  fun name => by cases override <;> simp

theorem canBeSet_plain {key value : String} (hkey : PlainKey key.toList)
    (hvalue : PlainValue value.toList) :
    canBeSet key value := by
  have hsign : '=' ∉ key.toList := fun h => (hkey.each _ h).1 rfl
  have hzero : '\x00' ∉ key.toList := fun h => (hkey.each _ h).2.2.1 rfl
  have hzeros : '\x00' ∉ value.toList := fun h => (hvalue.each _ h).2.2 rfl
  simp [canBeSet, hsign, hzero, hzeros]

theorem characters_lines {content : String} {es : Entries String} (h : Lines es content.toList) :
    characters content = alikeLines content.toList := by
  have hmark : content.toList.head? ≠ some '\ufeff' := fun hc => (h.head _ hc).2 rfl
  rw [characters, if_neg hmark]

/-- The content of a file with these variables, or of one that is not there. -/
inductive PlainContent : Option String → Entries String → Prop
  | absent : PlainContent none []
  | lines {text : String} {es : Entries String} (h : Lines es text.toList) :
    PlainContent (some text) es

/-- A reader puts the variables of a file beside those of an environment. -/
def Puts (read : FileReader) (content : Option String) (override : Bool) (file : Entries String)
    (env : Environment) : Prop :=
  ∃ env', read content override env = .ok env' ∧ Overlays override file env env'

/-- What is documented of a reader: the variables of a plain file, the last line of a key, are put
beside those of an environment, and also of one that they have been put into already. -/
structure ReadsPlain (read : FileReader) (override : Bool) (env : Environment) : Prop where
  first : ∀ {content es}, PlainContent content es →
    Puts read content override (Entries.ofList es) env
  again : ∀ {content es env'}, PlainContent content es →
    Overlays override (Entries.ofList es) env env' →
    Puts read content override (Entries.ofList es) env'

theorem read_lines {content : String} {es : Entries String} (h : Lines es content.toList)
    (override : Bool) {env : Environment} (hon : isDisabled env = false) :
    Puts EnvFile.read (some content) override (Entries.ofList es) env := by
  have hset : ∀ e ∈ Entries.ofList es, canBeSet e.1 e.2 :=
    Entries.forall_mem_merge (List.forall_mem_nil _) fun e he =>
      canBeSet_plain (h.plain e he).1 (h.plain e he).2
  obtain ⟨env', hput, hoverlays⟩ := setAll_overlays override (Entries.nodup_keys_ofList es) hset env
  have happly : apply content override env = .ok env' := by
    rw [apply, hon, if_neg Bool.false_ne_true, characters_lines h]
    dsimp only
    rw [h.bindings_eq (Nat.le_succ_of_le h.length_le), values_plain fun e he => (h.plain e he).2,
      hput]
  refine ⟨env', ?_, hoverlays⟩
  rw [EnvFile.read, happly]

/-- An environment in which files are not read is left as it is, which is what a second time asks
for. -/
theorem readsPlain_read (override : Bool) {env : Environment} (hon : isDisabled env = false) :
    ReadsPlain EnvFile.read override env where
  first h := by
    cases h with
    | absent => exact ⟨env, rfl, overlays_nil override env⟩
    | lines h => exact read_lines h override hon
  again {content es env'} h hoverlays := by
    cases h with
    | absent => exact ⟨env', rfl, overlays_nil override env'⟩
    | lines h =>
      cases hagain : isDisabled env' with
      | false => exact read_lines h override hagain
      | true =>
        refine ⟨env', ?_, hoverlays.again⟩
        rw [EnvFile.read, apply, hagain, if_pos rfl]

end SearchSource.EnvFile
