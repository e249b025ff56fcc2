import SearchSource.Proofs.Settings.Sources

/-! What overrides make of an environment that they complete. The environment has to make an
instance of its own first; if it does not, nothing of it remains. Main statement:
`create_from_environment`. -/
namespace SearchSource

theorem SetupError.isConfig_toReport (lead : String) (e : SetupError) :
    (e.toReport lead).isConfig := by
  unfold toReport
  split
  · next h => exact h
  · rfl

namespace Environment

variable {start : String} {env : Environment} {fields : List SettingsField}

theorem coerce_eq_error {variableName raw : String} {a : Annotation} {e : SetupError}
    (h : coerce variableName raw a = .error e) :
    e = .invalid variableName (.text raw) ("expected " ++ a.typeName) := by
  have helim {α : Type} {o : Option α} {expected : SetupError} {f : α → Except SetupError Value}
      (hf : ∀ x, f x ≠ .error e) (h : o.elim (.error expected) f = .error e) : e = expected := by
    cases o with
    | none => exact (Except.error.inj h).symm
    | some x => exact absurd h (hf x)
  unfold coerce at h
  dsimp only at h
  split at h
  · cases h
  split at h
  · exact helim nofun h
  split at h
  · exact helim nofun h
  split at h <;> cases h

/-- Reading stops at a field whose variable is missing, or has a text that is no such value. -/
theorem readFields_eq_error {e : SetupError} (h : readFields start env fields = .error e) :
    ∃ f ∈ fields, gives start env f = none ∧
      ((f.default? = none ∧ e = .missing (variableName start f.name)) ∨
        ∃ raw, env.lookup (variableName start f.name) = some raw ∧
          e = .invalid (variableName start f.name) (.text raw)
            ("expected " ++ f.annotation.typeName)) := by
  induction fields with
  | nil => cases h
  | cons f fs ih =>
    have hlater (h : readFields start env fs = .error e) :=
      (ih h).imp fun _ hg => And.imp_left (List.mem_cons_of_mem f) hg
    unfold readFields at h
    dsimp only at h
    cases hraw : env.lookup (variableName start f.name) with
    | none =>
      rw [hraw] at h
      dsimp only at h
      split at h
      · next hrequired =>
        refine ⟨f, List.mem_cons_self, ?_, .inl ⟨Option.isNone_iff_eq_none.mp hrequired, ?_⟩⟩
        · rw [gives, hraw, Option.bind_none]
        · exact (Except.error.inj h).symm
      · exact hlater h
    | some raw =>
      rw [hraw] at h
      rcases Except.bind_eq_error.mp h with hv | ⟨v, -, h⟩
      · refine ⟨f, List.mem_cons_self, ?_, .inr ⟨raw, hraw, coerce_eq_error hv⟩⟩
        rw [gives, hraw, Option.bind_some, hv]
        rfl
      · rcases Except.bind_eq_error.mp h with hothers | ⟨others, -, h⟩
        · exact hlater hothers
        · cases h

/-- An environment without an instance has a faulty configuration, so it is passed over. -/
theorem isConfig_of_load {c : SettingsClass} {e : Failure} (h : load c env = .error e) :
    e.isConfig := by
  unfold load at h
  cases hread : readFields c.envStart env c.fields with
  | error e' =>
    rw [hread] at h
    cases h
    obtain ⟨f, -, -, ⟨-, rfl⟩ | ⟨raw, -, rfl⟩⟩ := readFields_eq_error hread <;> rfl
  | ok given =>
    rw [hread] at h
    dsimp only at h
    cases hmade : c.construct given with
    | ok es =>
      rw [hmade] at h
      cases h
    | error e' =>
      rw [hmade] at h
      cases h
      exact e'.isConfig_toReport _

end Environment

namespace SettingsFactory

variable {c : SettingsClass} {canReadFiles : Bool} {env : Environment}

/-- A source with a faulty configuration is noted, and the others find the environment that it
leaves. -/
theorem gather_skip {merged : Entries Value} {l : SettingsLoader} (ls : List SettingsLoader)
    {env' : Environment} {e : Failure} (h : l.load c canReadFiles env = (.error e, env'))
    (he : e.isConfig) :
    gather c canReadFiles merged env (l :: ls) =
      ((gather c canReadFiles merged env' ls).1,
        skipped l e :: (gather c canReadFiles merged env' ls).2) := by
  rw [gather, h]
  simp only [he, if_true]

/-- If the environment makes an instance of its own, its values remain beside the overrides, as far
as the check keeps them. If not, all of it is passed over with a warning, and the settings are those
of the overrides and the defaults alone. -/
theorem create_from_environment (hc : c.WellFormed) {overrides : Entries Value}
    (hov : overrides.keys.Nodup) {es : Entries Value} {events : List LogEvent}
    (h : create c canReadFiles (some [.environment]) overrides env = (.ok es, events)) :
    (∀ inst, Environment.load c env = .ok inst →
      events = [] ∧ c.construct (inst.merge overrides) = .ok es ∧
      ∀ f ∈ c.fields, overrides.lookup f.name = none →
        ∀ v, Environment.gives c.envStart env f = some v → c.Keeps f.name v →
          es.lookup f.name = some v) ∧
    (∀ e, Environment.load c env = .error e →
      events = [skipped .environment e] ∧
      (∀ env', create c canReadFiles (some []) overrides env' = (.ok es, [])) ∧
      ∀ f ∈ c.fields, c.Leaves f.name → es.lookup f.name =
        (overrides.lookup f.name).or f.default?) := by
  constructor
  · intro inst hinst
    have hload : (SettingsLoader.environment.load c canReadFiles env).1 = .ok inst := hinst
    obtain ⟨given, hgiven, hgives⟩ := SettingsLoader.Says.environment.construct hc hload
    rw [create_eq_of_gather (gather_single hc hload), Prod.mk.injEq] at h
    have hmade := finish_eq_ok.mp h.1
    refine ⟨h.2.symm, hmade, ?_⟩
    intro f hf ho v hv hk
    refine SettingsClass.lookup_construct_of_keeps hc hmade hf ?_ hk
    have hinstance : inst.lookup f.name = some v := by
      refine SettingsClass.lookup_construct_of_keeps hc hgiven hf ?_ hk
      rw [hgives f hf, hv]
      rfl
    rw [Entries.lookup_merge_of_nodup hov, ho, hinstance]
    rfl
  · intro e he
    have hgather :
        gather c canReadFiles [] env [.environment] = (.ok [], [skipped .environment e]) :=
      gather_skip [] (congrArg (·, env) he) (Environment.isConfig_of_load he)
    rw [create_eq_of_gather hgather, Prod.mk.injEq] at h
    have hmade := finish_eq_ok.mp h.1
    refine ⟨h.2.symm, fun env' => ?_, fun f hf hl => ?_⟩
    · rw [create_eq_of_gather rfl, h.1]
    · rw [SettingsClass.lookup_construct hc hmade hf hl, Entries.merge_of_keys_eq hov (.inl rfl)]

/-- Settings with a name that has to be given. -/
def storeSettings : SettingsClass where
  name := "StoreSettings"
  envStart := "store"
  shared := ["_prefix"]
  fields := [⟨"index", .written "str", none⟩, ⟨"shards", .written "int", some (.int 1)⟩]
  check := requireAllPositive "StoreSettings" [("_prefix", .text "store")] ["shards"]

theorem wellFormed_storeSettings : storeSettings.WellFormed :=
  SettingsClass.wellFormed_of_positive rfl (by decide)

theorem leaves_storeSettings (name : String) : storeSettings.Leaves name :=
  SettingsClass.leaves_of_positive rfl name

theorem create_from_environment_store :
    ∃ es, create storeSettings true (some [.environment]) [("index", .text "cities")]
        [("STORE_INDEX", "towns"), ("STORE_SHARDS", "3")] = (.ok es, []) ∧
      es.lookup "index" = some (.text "cities") ∧ es.lookup "shards" = some (.int 3) := by
  have h : create storeSettings true (some [.environment]) [("index", .text "cities")]
      [("STORE_INDEX", "towns"), ("STORE_SHARDS", "3")] =
        (.ok [("index", .text "cities"), ("shards", .int 3)], []) := rfl
  obtain ⟨-, -, hfields⟩ := (create_from_environment wellFormed_storeSettings (by decide) h).1
    [("index", .text "towns"), ("shards", .int 3)] rfl
  refine ⟨_, h, rfl, ?_⟩
  exact hfields ⟨"shards", .written "int", some (.int 1)⟩ (by simp [storeSettings]) rfl _ rfl
    ((leaves_storeSettings _).keeps _)

/-- The number of shards is in the environment, and the missing name among the overrides; the number
is lost. An empty node is lost too, in an environment that is complete, as the check of the
connection fills it in. -/
theorem store_without_index_loses_shards :
    (Environment.gives "store" [("STORE_SHARDS", "3")]
      ⟨"shards", .written "int", some (.int 1)⟩ = some (.int 3) ∧
      create storeSettings true (some [.environment]) [("index", .text "towns")]
        [("STORE_SHARDS", "3")] =
        (.ok [("index", .text "towns"), ("shards", .int 1)],
          [skipped .environment (.ofKind (.missingSetting (.text "STORE_INDEX")))])) ∧
    ¬ Connection.settings.Keeps "node" (.text "") :=
  ⟨⟨rfl, rfl⟩, fun hk => absurd (Connection.keeps_node_iff.mp hk) (by decide)⟩

end SettingsFactory
end SearchSource
