import SearchSource.Proofs.Settings.Completion

/-! Sources that fail. One with a faulty configuration counts as if it were not named, except for a
warning, and any other failure ends the work. Main statement: `create_passes_over_faulty`. -/
namespace SearchSource

namespace Failure

/-- A report of the class of faulty configurations, or of a class below it. -/
def ReportsConfig (f : Failure) : Prop :=
  ∃ kind code message detail cause, f = .report kind code message detail cause ∧
    .config ∈ kind :: kind.ancestors

theorem isConfig_iff {f : Failure} : f.isConfig ↔ f.ReportsConfig := by
  constructor
  · intro h
    cases f with
    | report kind code message detail cause =>
      refine ⟨kind, code, message, detail, cause, rfl, ?_⟩
      cases kind <;> simp [isConfig, ReportKind.isConfig] at h <;> simp [ReportKind.ancestors]
    | _ => cases h
  · rintro ⟨kind, code, message, detail, cause, rfl, hkind⟩
    cases kind <;> simp [ReportKind.ancestors] at hkind <;> rfl

end Failure

namespace SettingsFactory

variable (c : SettingsClass) (canReadFiles : Bool) (env : Environment)

def FailsWith (l : SettingsLoader) (f : Failure) : Prop := (l.load c canReadFiles env).1 = .error f

def loads (l : SettingsLoader) : Bool := (l.load c canReadFiles env).1.isOk

/-- The event is a warning that names the source and says why it was passed over. -/
def WarnsOf (l : SettingsLoader) (e : LogEvent) : Prop :=
  ∃ f, FailsWith c canReadFiles env l f ∧
    e = ⟨.warning, "settings.loader_skipped",
      [("loader", .text l.className), ("error", .text f.message)]⟩

/-- The only failures are faulty configurations. -/
def OnlyFaulty (ls : List SettingsLoader) : Prop :=
  ∀ l ∈ ls, ∀ f, FailsWith c canReadFiles env l f → f.ReportsConfig

variable {c canReadFiles env}

theorem gather_stop {merged : Entries Value} {l : SettingsLoader} (ls : List SettingsLoader)
    {f : Failure} (h : FailsWith c canReadFiles env l f) (hf : ¬ f.ReportsConfig) :
    gather c canReadFiles merged env (l :: ls) = (.error f, []) := by
  have hload : l.load c canReadFiles env = (.error f, (l.load c canReadFiles env).2) :=
    Prod.ext h rfl
  rw [gather, hload]
  simp only [mt Failure.isConfig_iff.mp hf, if_false, Bool.false_eq_true]

/-- One source whose failures are faulty configurations only: either its instance is merged, or
there is one warning and nothing else. -/
theorem gather_cases {l : SettingsLoader} (hstill : (l.load c canReadFiles env).2 = env)
    (hfaulty : ∀ f, FailsWith c canReadFiles env l f → f.ReportsConfig) :
    (∃ es, loads c canReadFiles env l = true ∧ ∀ merged ls,
      gather c canReadFiles merged env (l :: ls) = gather c canReadFiles (merged.merge es) env ls) ∨
    ∃ e, loads c canReadFiles env l = false ∧ WarnsOf c canReadFiles env l e ∧ ∀ merged ls,
      gather c canReadFiles merged env (l :: ls) =
        ((gather c canReadFiles merged env ls).1,
          e :: (gather c canReadFiles merged env ls).2) := by
  unfold loads
  cases hl : (l.load c canReadFiles env).1 with
  | ok es =>
    refine .inl ⟨es, rfl, fun merged ls => ?_⟩
    rw [gather_cons ls hl, hstill]
  | error f =>
    have hconfig : f.isConfig := Failure.isConfig_iff.mpr (hfaulty f hl)
    exact .inr ⟨skipped l f, rfl, ⟨f, hl, rfl⟩, fun merged ls =>
      gather_skip ls (Prod.ext hl hstill) hconfig⟩

/-- Without the sources that fail, the work is the same and nothing is noted. -/
theorem gather_onlyFaulty {ls : List SettingsLoader}
    (hstill : ∀ l ∈ ls, (l.load c canReadFiles env).2 = env)
    (hfaulty : OnlyFaulty c canReadFiles env ls) (merged : Entries Value) :
    ∃ values events,
      gather c canReadFiles merged env (ls.filter (loads c canReadFiles env)) = (.ok values, []) ∧
      gather c canReadFiles merged env ls = (.ok values, events) ∧
      List.Forall₂ (WarnsOf c canReadFiles env)
        (ls.filter fun l => !loads c canReadFiles env l) events := by
  -- what is merged so far is the same on both sides, as only sources with an instance add to it
  induction ls generalizing merged with
  | nil => exact ⟨merged, [], rfl, rfl, .nil⟩
  | cons l ls ih =>
    obtain ⟨hstill, hstills⟩ := List.forall_mem_cons.mp hstill
    obtain ⟨hfaulty, hfaulties⟩ := List.forall_mem_cons.mp hfaulty
    rcases gather_cases hstill hfaulty with ⟨es, hloads, hstep⟩ | ⟨e, hloads, hwarns, hstep⟩
    · obtain ⟨values, events, hothers, hall, hwarned⟩ := ih hstills hfaulties (merged.merge es)
      refine ⟨values, events, ?_, ?_, ?_⟩
      · rw [List.filter_cons_of_pos hloads, hstep, hothers]
      · rw [hstep, hall]
      · rw [List.filter_cons_of_neg (by simp [hloads])]
        exact hwarned
    · obtain ⟨values, events, hothers, hall, hwarned⟩ := ih hstills hfaulties merged
      refine ⟨values, e :: events, ?_, ?_, ?_⟩
      · rw [List.filter_cons_of_neg (by simp [hloads]), hothers]
      · rw [hstep, hall]
      · rw [List.filter_cons_of_pos (by simp [hloads])]
        exact .cons hwarns hwarned

/-- A failure of another kind ends the work, whatever comes behind it and was gathered before it. -/
theorem gather_append_stop {before : List SettingsLoader} {l : SettingsLoader} {f : Failure}
    (hstill : ∀ l ∈ before, (l.load c canReadFiles env).2 = env)
    (hfaulty : OnlyFaulty c canReadFiles env before) (h : FailsWith c canReadFiles env l f)
    (hf : ¬ f.ReportsConfig) :
    ∃ events, List.Forall₂ (WarnsOf c canReadFiles env)
      (before.filter fun l => !loads c canReadFiles env l) events ∧
      ∀ merged later, gather c canReadFiles merged env (before ++ l :: later) =
        (.error f, events) := by
  induction before with
  | nil => exact ⟨[], .nil, fun _ later => gather_stop later h hf⟩
  | cons l' ls ih =>
    obtain ⟨hstill, hstills⟩ := List.forall_mem_cons.mp hstill
    obtain ⟨hfaulty, hfaulties⟩ := List.forall_mem_cons.mp hfaulty
    obtain ⟨events, hwarned, hends⟩ := ih hstills hfaulties
    rcases gather_cases hstill hfaulty with ⟨es, hloads, hstep⟩ | ⟨e, hloads, hwarns, hstep⟩
    · refine ⟨events, ?_, fun merged later => ?_⟩
      · rw [List.filter_cons_of_neg (by simp [hloads])]
        exact hwarned
      · rw [List.cons_append, hstep, hends]
    · refine ⟨e :: events, ?_, fun merged later => ?_⟩
      · rw [List.filter_cons_of_pos (by simp [hloads])]
        exact .cons hwarns hwarned
      · rw [List.cons_append, hstep, hends]

theorem exists_first_stop {ls : List SettingsLoader} {l : SettingsLoader} {f : Failure}
    (hl : l ∈ ls) (h : FailsWith c canReadFiles env l f) (hf : ¬ f.ReportsConfig) :
    ∃ before first after g, ls = before ++ first :: after ∧ OnlyFaulty c canReadFiles env before ∧
      FailsWith c canReadFiles env first g ∧ ¬ g.ReportsConfig := by
  induction ls with
  | nil => cases hl
  | cons l' ls ih =>
    by_cases hstops : ∃ g, FailsWith c canReadFiles env l' g ∧ ¬ g.ReportsConfig
    · obtain ⟨g, hg, hstop⟩ := hstops
      exact ⟨[], l', ls, g, rfl, nofun, hg, hstop⟩
    · have hpasses : ∀ g, FailsWith c canReadFiles env l' g → g.ReportsConfig := by
        intro g hg
        by_contra hstop
        exact hstops ⟨g, hg, hstop⟩
      have hmem : l ∈ ls := by
        rcases List.mem_cons.mp hl with rfl | hmem
        · exact absurd (hpasses f h) hf
        · exact hmem
      obtain ⟨before, first, after, g, rfl, hbefore, hg, hstop⟩ := ih hmem
      exact ⟨l' :: before, first, after, g, rfl,
        List.forall_mem_cons.mpr ⟨hpasses, hbefore⟩, hg, hstop⟩

/-- If sources fail with faulty configurations only, the settings are what they are without those
sources, and there is one warning for each of them, in their order. Otherwise the first other
failure is raised, after the warnings that come before it and whatever sources there are behind
it. -/
theorem create_passes_over_faulty {loaders : List SettingsLoader}
    (hstill : ∀ l ∈ loaders, (l.load c canReadFiles env).2 = env) (overrides : Entries Value) :
    (OnlyFaulty c canReadFiles env loaders →
      ∃ result events,
        create c canReadFiles (some (loaders.filter (loads c canReadFiles env))) overrides env =
          (result, []) ∧
        create c canReadFiles (some loaders) overrides env = (result, events) ∧
        List.Forall₂ (WarnsOf c canReadFiles env)
          (loaders.filter fun l => !loads c canReadFiles env l) events) ∧
    (∀ l ∈ loaders, ∀ f, FailsWith c canReadFiles env l f → ¬ f.ReportsConfig →
      ∃ before first after g events, loaders = before ++ first :: after ∧
        OnlyFaulty c canReadFiles env before ∧
        FailsWith c canReadFiles env first g ∧ ¬ g.ReportsConfig ∧
        List.Forall₂ (WarnsOf c canReadFiles env)
          (before.filter fun l => !loads c canReadFiles env l) events ∧
        ∀ later, create c canReadFiles (some (before ++ first :: later)) overrides env =
          (.error g, events)) := by
  constructor
  · intro hfaulty
    obtain ⟨values, events, hothers, hall, hwarned⟩ := gather_onlyFaulty hstill hfaulty []
    refine ⟨finish c (values.merge overrides), events, ?_, ?_, hwarned⟩
    · rw [create_eq_of_gather hothers]
    · rw [create_eq_of_gather hall]
  · intro l hl f h hf
    obtain ⟨before, first, after, g, rfl, hbefore, hg, hstop⟩ := exists_first_stop hl h hf
    have hstills : ∀ l ∈ before, (l.load c canReadFiles env).2 = env :=
      fun l hl => hstill l (List.mem_append_left _ hl)
    obtain ⟨events, hwarned, hends⟩ := gather_append_stop hstills hbefore hg hstop
    refine ⟨before, first, after, g, events, rfl, hbefore, hg, hstop, hwarned, fun later => ?_⟩
    rw [create, Option.getD_some, hends]

/-- A source that gives a node. -/
def nodeLoader : SettingsLoader := .given "NodeLoader" [("node", .text "http://es:9200")]

/-- A user without a password, a source that is not there, and one that gives a node. -/
def faultyThenNode : List SettingsLoader :=
  [.given "UserLoader" [("username", .text "elastic")],
    .failing "BrokenLoader" (.build .config (some "unavailable") none [] none), nodeLoader]

theorem onlyFaulty_faultyThenNode : OnlyFaulty Connection.settings false [] faultyThenNode := by
  intro l hl f h
  simp only [faultyThenNode, List.mem_cons, List.not_mem_nil, or_false] at hl
  rcases hl with rfl | rfl | rfl <;> cases h <;> exact Failure.isConfig_iff.mp rfl

/-- A file of variables that cannot be read, as its package is missing. -/
def missingReader : SettingsLoader := .envFile EnvFile.read none false

/-- Two warnings; and with a file that cannot be read behind these sources, its failure after
them. -/
theorem create_passes_over_faulty_faultyThenNode :
    (∃ result events,
      create Connection.settings false (some [nodeLoader]) [] [] = (result, []) ∧
      create Connection.settings false (some faultyThenNode) [] [] = (result, events) ∧
      events.length = 2) ∧
    ∃ g events, ¬ g.ReportsConfig ∧
      create Connection.settings false (some (faultyThenNode ++ [missingReader])) [] [] =
        (.error g, events) := by
  have hstill : ∀ l ∈ faultyThenNode ++ [missingReader],
      (l.load Connection.settings false []).2 = [] := by
    intro l hl
    simp only [faultyThenNode, List.cons_append, List.nil_append, List.mem_cons, List.not_mem_nil,
      or_false] at hl
    rcases hl with rfl | rfl | rfl | rfl <;> rfl
  constructor
  · have hstills := fun l hl => hstill l (List.mem_append_left _ hl)
    obtain ⟨result, events, hothers, hall, hwarned⟩ :=
      (create_passes_over_faulty hstills []).1 onlyFaulty_faultyThenNode
    exact ⟨result, events, hothers, hall, hwarned.length_eq.symm⟩
  · have hfails :
        FailsWith Connection.settings false [] missingReader SettingsLoader.envFileMissing := rfl
    have hother : ¬ SettingsLoader.envFileMissing.ReportsConfig := fun h => by
      cases Failure.isConfig_iff.mpr h
    obtain ⟨before, first, after, g, events, hsplit, -, -, hg, -, hends⟩ :=
      (create_passes_over_faulty hstill []).2 _ (by simp) _ hfails hother
    exact ⟨g, events, hg, hsplit ▸ hends after⟩

end SettingsFactory
end SearchSource
