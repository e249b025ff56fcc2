import SearchSource.Proofs.Settings.Overlay

/-! Settings from a file of variables are those of the environment that it leaves. A loader of the
environment behind one of files therefore finds what was found already. Main statement:
`file_leaves_what_it_loads`. -/
namespace SearchSource
open EnvFile

theorem Environment.load_congr {env env' : Environment}
    (h : ∀ name, env.lookup name = env'.lookup name) (c : SettingsClass) :
    load c env = load c env' := by
  rw [load, load, readFields_congr fun name _ => h name]

theorem SettingsLoader.load_envFile_of_read {read : FileReader} {content : Option String}
    {override : Bool} {env env' : Environment} (h : read content override env = .ok env')
    (c : SettingsClass) :
    (envFile read content override).load c true env = (Environment.load c env', env') := by
  simp only [envFile, if_true, h]

namespace SettingsFactory

variable {c : SettingsClass} {canReadFiles : Bool} {l : SettingsLoader} {env env' : Environment}

section Behind

variable (h : l.load c canReadFiles env = (Environment.load c env', env'))
  (overrides : Entries Value)

include h

/-- The environment has the same instance once more, and merging it changes nothing. -/
theorem create_behind_of_ok {es : Entries Value} (hload : Environment.load c env' = .ok es) :
    create c canReadFiles (some [l, .environment]) overrides env =
      create c canReadFiles (some [l]) overrides env := by
  have hfirst : (l.load c canReadFiles env).1 = .ok es := by rw [h, hload]
  have hleft : (l.load c canReadFiles env).2 = env' := by rw [h]
  have hsecond : (SettingsLoader.environment.load c canReadFiles env').1 = .ok es := hload
  have hsame : (Entries.merge [] es).merge es = Entries.merge [] es := Entries.ofList_merge_self es
  have hone : gather c canReadFiles [] env [l] = (.ok (Entries.merge [] es), []) :=
    gather_cons [] hfirst
  have htwo : gather c canReadFiles [] env [l, .environment] = (.ok (Entries.merge [] es), []) := by
    rw [gather_cons _ hfirst, hleft, gather_cons [] hsecond, hsame]
    rfl
  rw [create_eq_of_gather hone, create_eq_of_gather htwo]

/-- The environment fails in the same way, which is noted once more. -/
theorem create_behind_of_error {f : Failure} (hload : Environment.load c env' = .error f) :
    ∃ outcome, create c canReadFiles (some [l]) overrides env = (outcome, [skipped l f]) ∧
      create c canReadFiles (some [l, .environment]) overrides env =
        (outcome, [skipped l f, skipped .environment f]) := by
  have hconfig : f.isConfig := Environment.isConfig_of_load hload
  have hfirst : l.load c canReadFiles env = (.error f, env') := by rw [h, hload]
  have hsecond : SettingsLoader.environment.load c canReadFiles env' = (.error f, env') :=
    Prod.ext hload rfl
  have hone : gather c canReadFiles [] env [l] = (.ok [], [skipped l f]) :=
    gather_skip [] hfirst hconfig
  have htwo : gather c canReadFiles [] env [l, .environment] =
      (.ok [], [skipped l f, skipped .environment f]) := by
    rw [gather_skip _ hfirst hconfig, gather_skip [] hsecond hconfig]
    rfl
  exact ⟨_, create_eq_of_gather hone overrides, create_eq_of_gather htwo overrides⟩

end Behind

/-- A file of plain lines is put beside the environment, and settings are read from what comes of it
and is left, also if they cannot be read. So the same file changes nothing the second time, and
neither does the environment behind it: it only warns once more if the file could not be read. -/
theorem file_leaves_what_it_loads {read : FileReader} {override : Bool} {env : Environment}
    (hread : ReadsPlain read override env) {content : Option String} {es : Entries String}
    (hplain : PlainContent content es) (c : SettingsClass) :
    let file := SettingsLoader.envFile read content override
    let loaded := (file.load c true env).1
    let left := (file.load c true env).2
    Overlays override (Entries.ofList es) env left ∧
      (∀ other, Overlays override (Entries.ofList es) env other →
        loaded = Environment.load c other) ∧
      (file.load c true left).1 = loaded ∧
      (∀ name, (file.load c true left).2.lookup name = left.lookup name) ∧
      ∀ overrides,
        let alone := create c true (some [file]) overrides env
        let both := create c true (some [file, .environment]) overrides env
        both.1 = alone.1 ∧
        (∀ inst, loaded = .ok inst → both.2 = alone.2) ∧
        ∀ f, loaded = .error f →
          alone.2 = [⟨.warning, "settings.loader_skipped",
            [("loader", .text "DotenvSettingsLoader"), ("error", .text f.message)]⟩] ∧
          both.2 = alone.2 ++ [⟨.warning, "settings.loader_skipped",
            [("loader", .text "EnvSettingsLoader"), ("error", .text f.message)]⟩] := by
  obtain ⟨env', hfirst, hoverlays⟩ := hread.first hplain
  obtain ⟨env'', hsecond, hagain⟩ := hread.again hplain hoverlays
  intro file loaded left
  have hload : file.load c true env = (Environment.load c env', env') :=
    SettingsLoader.load_envFile_of_read hfirst c
  have hreload : file.load c true env' = (Environment.load c env'', env'') :=
    SettingsLoader.load_envFile_of_read hsecond c
  have hsame (name : String) : env''.lookup name = env'.lookup name :=
    (hagain name).trans (hoverlays.again name).symm
  have hloaded : loaded = Environment.load c env' := congrArg Prod.fst hload
  have hleft : left = env' := congrArg Prod.snd hload
  rw [hloaded, hleft, hreload]
  refine ⟨hoverlays, fun other hother => ?_, Environment.load_congr hsame c, hsame,
    fun overrides => ?_⟩
  · exact Environment.load_congr (fun name => (hoverlays name).trans (hother name).symm) c
  · intro alone both
    cases hresult : Environment.load c env' with
    | ok inst =>
      have hsame : both = alone := create_behind_of_ok hload overrides hresult
      rw [hsame]
      exact ⟨rfl, fun _ _ => rfl, nofun⟩
    | error f =>
      obtain ⟨outcome, hone, htwo⟩ := create_behind_of_error hload overrides hresult
      have halone : alone = (outcome, [skipped file f]) := hone
      have hboth : both = (outcome, [skipped file f, skipped .environment f]) := htwo
      rw [halone, hboth]
      refine ⟨rfl, nofun, ?_⟩
      rintro f ⟨⟩
      exact ⟨rfl, rfl⟩

/-- A file that sets the number of shards twice. -/
def shardsTwice : String := "STORE_SHARDS=8\r\nSTORE_SHARDS=2"

theorem lines_shardsTwice :
    Lines [("STORE_SHARDS", "8"), ("STORE_SHARDS", "2")] shardsTwice.toList := by
  have hkey : PlainKey "STORE_SHARDS".toList := by
    refine ⟨by decide, ?_, ?_⟩
    · rintro c ⟨⟩
      decide
    · intro c hc
      have hall : "STORE_SHARDS".toList.all
        (fun c => c ≠ '=' ∧ c ≠ '#' ∧ c ≠ '\x00' ∧ Text.isBlank c = false) := by decide
      simpa using List.all_eq_true.mp hall c hc
  have hvalue (c : Char) (hblank : Text.isBlank c = false) (hc : c ≠ '\'' ∧ c ≠ '"' ∧ c ≠ '\x00') :
      PlainValue (String.singleton c).toList := by
    have hends : c ≠ '\n' ∧ c ≠ '\r' := by
      constructor <;> rintro rfl <;> cases hblank
    rw [String.toList_singleton]
    refine ⟨⟨?_, ?_⟩, ?_, List.forall_mem_singleton.mpr ⟨hends.1, hends.2, hc.2.2⟩,
      fun _ _ h => ?_, fun h => ?_⟩
    · rintro d ⟨⟩
      exact hblank
    · rintro d ⟨⟩
      exact hblank
    · rintro d ⟨⟩
      exact ⟨hc.1, hc.2.1⟩
    · exact absurd h.length_le (by simp)
    · exact absurd h.length_le (by simp)
  have hend : ['\r', '\n'] ∈ lineEnds := by simp [lineEnds]
  have hlast : Lines [("STORE_SHARDS", "2")] _ := .last (.intro hkey (hvalue '2' rfl (by decide)))
  exact .cons (.intro hkey (hvalue '8' rfl (by decide))) hend hlast

/-- The file is read though there is no instance, as the name of the index is missing. -/
theorem file_leaves_what_it_loads_shardsTwice :
    let file := SettingsLoader.envFile EnvFile.read (some shardsTwice) true
    let left := (file.load storeSettings true [("STORE_SHARDS", "4")]).2
    ReadsPlain EnvFile.read true [("STORE_SHARDS", "4")] ∧
      PlainContent (some shardsTwice) [("STORE_SHARDS", "8"), ("STORE_SHARDS", "2")] ∧
      left.lookup "STORE_SHARDS" = some "2" ∧
      (file.load storeSettings true left).1 =
        .error (.ofKind (.missingSetting (.text "STORE_INDEX"))) ∧
      (create storeSettings true (some [file, .environment]) []
        [("STORE_SHARDS", "4")]).2.length = 2 := by
  intro file left
  have hread : ReadsPlain EnvFile.read true [("STORE_SHARDS", "4")] := readsPlain_read true rfl
  have hplain : PlainContent (some shardsTwice) [("STORE_SHARDS", "8"), ("STORE_SHARDS", "2")] :=
    .lines lines_shardsTwice
  obtain ⟨hoverlays, -, hagain, -, hcreate⟩ := file_leaves_what_it_loads hread hplain storeSettings
  have hmissing : (file.load storeSettings true [("STORE_SHARDS", "4")]).1 =
      .error (.ofKind (.missingSetting (.text "STORE_INDEX"))) := rfl
  obtain ⟨-, -, hwarned⟩ := hcreate []
  obtain ⟨halone, hboth⟩ := hwarned _ hmissing
  refine ⟨hread, hplain, (hoverlays "STORE_SHARDS").trans rfl, ?_, ?_⟩
  · dsimp only [file, left]
    rw [hagain]
    exact hmissing
  · rw [hboth, halone]
    rfl

end SettingsFactory
end SearchSource
