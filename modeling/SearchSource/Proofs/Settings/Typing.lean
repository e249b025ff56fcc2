import SearchSource.Proofs.Settings.Sources

/-! Values of declared types, and the ways in which an instance comes into being. Every way ends
with an instance made of values of the declared types. Main statement: `Made.constructed`. -/
namespace SearchSource

/-- Every value fits its key. -/
def AllFit (fits : String → Value → Prop) (es : Entries Value) : Prop := ∀ e ∈ es, fits e.1 e.2

/-- The values of the instances that a source gives are of the declared types. Environments and
files are such sources of every class that declares its values (`fits_environment`,
`fits_envFile`). -/
def SettingsLoader.Fits (l : SettingsLoader) (c : SettingsClass) (fits : String → Value → Prop) :
    Prop :=
  ∀ {canReadFiles env es}, (l.load c canReadFiles env).1 = .ok es → AllFit fits es

/-- Defaults, what is read from texts and what the check fills in are of the declared types. -/
structure SettingsClass.Declares (c : SettingsClass) (fits : String → Value → Prop) : Prop where
  default : ∀ f ∈ c.fields, ∀ v, f.default? = some v → fits f.name v
  read : ∀ f ∈ c.fields, ∀ variableName raw v,
    Environment.coerce variableName raw f.annotation = .ok v → fits f.name v
  check : ∀ es es', AllFit fits es → c.check es = .ok es' → AllFit fits es'

/-- An instance made of values of the declared types, read from an environment, or merged from
sources. -/
inductive SettingsClass.Made (c : SettingsClass) (fits : String → Value → Prop) :
    Entries Value → Prop
  | direct {given es : Entries Value} (hgiven : AllFit fits given)
    (h : c.construct given = .ok es) : Made c fits es
  | read {env : Environment} {es : Entries Value} (h : Environment.load c env = .ok es) :
    Made c fits es
  | merged {canReadFiles : Bool} {loaders : Option (List SettingsLoader)}
    {overrides es : Entries Value} {env : Environment} {events : List LogEvent}
    (hloaders : ∀ ls, loaders = some ls → ∀ l ∈ ls, l.Fits c fits)
    (hoverrides : AllFit fits overrides)
    (h : SettingsFactory.create c canReadFiles loaders overrides env = (.ok es, events)) :
      Made c fits es

variable {c : SettingsClass} {fits : String → Value → Prop} {given es : Entries Value}

namespace SettingsClass

theorem allFit_fill {className : String} {fields : List SettingsField}
    (hdefault : ∀ f ∈ fields, ∀ v, f.default? = some v → fits f.name v) (hgiven : AllFit fits given)
    (h : fill className given fields = .ok es) : AllFit fits es := by
  induction fill_eq_ok.mp h with
  | nil => exact nofun
  | @cons f e fs rest he hrest ih =>
    obtain ⟨hf, hfs⟩ := List.forall_mem_cons.mp hdefault
    obtain ⟨hname, hvalue⟩ := he
    refine List.forall_mem_cons.mpr ⟨?_, ih hfs (fill_eq_ok.mpr hrest)⟩
    rw [hname]
    rcases Option.or_eq_some_iff.mp hvalue with hlookup | ⟨-, hdef⟩
    · exact hgiven _ (Entries.mem_of_lookup hlookup)
    · exact hf _ hdef

theorem Declares.construct (hc : c.Declares fits) (hgiven : AllFit fits given)
    (h : c.construct given = .ok es) :
    AllFit fits es := by
  obtain ⟨-, filled, hfill, hcheck⟩ := construct_eq_ok.mp h
  exact hc.check filled es (allFit_fill hc.default hgiven hfill) hcheck

end SettingsClass

theorem Environment.allFit_readFields {start : String} {env : Environment}
    {fields : List SettingsField}
    (hread : ∀ f ∈ fields, ∀ variableName raw v,
      coerce variableName raw f.annotation = .ok v → fits f.name v)
    (h : readFields start env fields = .ok given) : AllFit fits given := by
  induction fields generalizing given with
  | nil =>
    cases h
    exact nofun
  | cons f fs ih =>
    obtain ⟨hf, hfs⟩ := List.forall_mem_cons.mp hread
    rcases readFields_cons_eq_ok.mp h with ⟨-, -, hothers⟩ | ⟨raw, v, others, -, hv, hothers, rfl⟩
    · exact ih hfs hothers
    · exact List.forall_mem_cons.mpr ⟨hf _ _ _ hv, ih hfs hothers⟩

section Declared

variable (hc : c.Declares fits)

include hc

theorem Environment.allFit_load {env : Environment} (h : Environment.load c env = .ok es) :
    AllFit fits es := by
  obtain ⟨given, hread, hmade⟩ := Environment.load_eq_ok.mp h
  exact hc.construct (Environment.allFit_readFields hc.read hread) hmade

namespace SettingsLoader

theorem fits_environment : environment.Fits c fits := fun h => Environment.allFit_load hc h

theorem fits_envFile (read : FileReader) (content : Option String) (override : Bool) :
    (envFile read content override).Fits c fits :=
  fun h => Environment.allFit_load hc (load_envFile h)

theorem fits_given {className : String} {values : Entries Value} (hvalues : AllFit fits values) :
    (SettingsLoader.given className values).Fits c fits :=
  fun h => hc.construct hvalues (load_given h)

end SettingsLoader

end Declared

theorem SettingsFactory.allFit_gather {canReadFiles : Bool} {env : Environment}
    {ls : List SettingsLoader} (hls : ∀ l ∈ ls, l.Fits c fits) {values result : Entries Value}
    (hvalues : AllFit fits values) (h : (gather c canReadFiles values env ls).1 = .ok result) :
    AllFit fits result := by
  -- for all environments, as a source may leave another one to those behind it
  induction ls generalizing values env with
  | nil =>
    cases h
    exact hvalues
  | cons l ls ih =>
    obtain ⟨hl, hls⟩ := List.forall_mem_cons.mp hls
    rcases gather_cons_cases h with ⟨inst, hload, hrest⟩ | ⟨-, -, hrest⟩
    · exact ih hls (Entries.forall_mem_merge hvalues (hl hload)) hrest
    · exact ih hls hvalues hrest

/-- However an instance comes into being, it is made of values of the declared types. -/
theorem SettingsClass.Made.constructed (hc : c.Declares fits) (h : c.Made fits es) :
    ∃ given, AllFit fits given ∧ c.construct given = .ok es := by
  cases h with
  | @direct given _ hgiven h => exact ⟨given, hgiven, h⟩
  | read h =>
    obtain ⟨given, hread, hmade⟩ := Environment.load_eq_ok.mp h
    exact ⟨given, Environment.allFit_readFields hc.read hread, hmade⟩
  | @merged canReadFiles loaders overrides env _ events hloaders hoverrides h =>
    have hfits : ∀ l ∈ loaders.getD [.environment], l.Fits c fits := by
      cases loaders with
      | none => exact List.forall_mem_singleton.mpr (SettingsLoader.fits_environment hc)
      | some ls => exact hloaders ls rfl
    obtain ⟨values, hgather, hmade⟩ := SettingsFactory.create_eq_ok h
    have hvalues : AllFit fits values :=
      SettingsFactory.allFit_gather hfits (List.forall_mem_nil _) hgather
    exact ⟨_, Entries.forall_mem_merge hvalues hoverrides, hmade⟩

end SearchSource
