import SearchSource.Settings.Factory
import SearchSource.Proofs.Settings.Construction

/-! What sources of settings say themselves, and what becomes of it when they are merged. An
instance has all fields, also those its source says nothing about, so the last instance takes the
place of all before it. Main statements: `SettingsLoader.Says.construct` and `gather_concat`. -/
namespace SearchSource

namespace Environment

/-- What the variable of a field says, if it is set and can be read. -/
def gives (start : String) (env : Environment) (f : SettingsField) : Option Value :=
  let variableName := variableName start f.name
  (env.lookup variableName).bind fun raw => (coerce variableName raw f.annotation).toOption

variable {start : String} {env : Environment} {fields : List SettingsField} {given : Entries Value}
  {f : SettingsField}

/-- A field is read if its variable is not set and it has a default, or if its variable is set to a
text that it can read. -/
theorem readFields_cons_eq_ok {fs : List SettingsField} :
    readFields start env (f :: fs) = .ok given ↔
      (env.lookup (variableName start f.name) = none ∧ f.default? ≠ none ∧
        readFields start env fs = .ok given) ∨
        ∃ raw v others, env.lookup (variableName start f.name) = some raw ∧
          coerce (variableName start f.name) raw f.annotation = .ok v ∧
          readFields start env fs = .ok others ∧ given = (f.name, v) :: others := by
  rw [readFields]
  cases env.lookup (variableName start f.name) with
  | none => cases hdefault : f.default? <;> simp
  | some raw =>
    simp only [Except.bind_eq_ok, Except.pure_eq_ok, Option.some.injEq, reduceCtorEq, false_and,
      false_or]
    constructor
    · rintro ⟨v, hv, others, hothers, rfl⟩
      exact ⟨raw, v, others, rfl, hv, hothers, rfl⟩
    · rintro ⟨_, v, others, rfl, hv, hothers, rfl⟩
      exact ⟨v, hv, others, hothers, rfl⟩

/-- What is read is a mapping of some of the fields, each with what its variable says. -/
theorem lookup_readFields (hn : (fields.map (·.name)).Nodup)
    (h : readFields start env fields = .ok given) :
    (∀ k ∈ given.keys, k ∈ fields.map (·.name)) ∧
      ∀ f ∈ fields, given.lookup f.name = gives start env f := by
  induction fields generalizing given with
  | nil =>
    cases h
    simp
  | cons f fs ih =>
    rw [List.map_cons, List.nodup_cons] at hn
    -- what is read of the other fields says nothing about the first
    have hfirst {others : Entries Value} (hothers : readFields start env fs = .ok others) :
        others.lookup f.name = none :=
      Entries.lookup_eq_none.mpr fun hk => hn.1 ((ih hn.2 hothers).1 _ hk)
    rcases readFields_cons_eq_ok.mp h with ⟨hraw, -, hothers⟩ | ⟨raw, v, others,
      hraw, hv, hothers, rfl⟩
    · obtain ⟨hkeys, hgives⟩ := ih hn.2 hothers
      refine ⟨fun k hk => List.mem_cons_of_mem _ (hkeys k hk), ?_⟩
      intro g hg
      rcases List.mem_cons.mp hg with rfl | hg
      · rw [hfirst hothers, gives, hraw, Option.bind_none]
      · exact hgives g hg
    · obtain ⟨hkeys, hgives⟩ := ih hn.2 hothers
      refine ⟨?_, ?_⟩
      · rw [Entries.keys_cons]
        exact List.forall_mem_cons.mpr ⟨by simp, fun k hk => List.mem_cons_of_mem _ (hkeys k hk)⟩
      · intro g hg
        rcases List.mem_cons.mp hg with rfl | hg
        · rw [List.lookup_cons_self, gives, hraw, Option.bind_some, hv]
          rfl
        · have hne : g.name ≠ f.name := fun heq => hn.1 (heq ▸ List.mem_map_of_mem hg)
          rw [Entries.lookup_cons_of_ne hne]
          exact hgives g hg

theorem load_eq_ok {c : SettingsClass} {es : Entries Value} :
    load c env = .ok es ↔ ∃ given, readFields c.envStart env c.fields = .ok given ∧
      c.construct given = .ok es := by
  unfold load
  cases readFields c.envStart env c.fields with
  | error e => simp
  | ok given => cases hes : c.construct given <;> simp [hes]

end Environment

namespace SettingsLoader

/-- What a source says about the fields in the environment that it finds, if it says that by
variables or by values of its own. A file of variables says what the environment does after it is
read. -/
inductive Says (c : SettingsClass) (canReadFiles : Bool) (env : Environment) :
    SettingsLoader → (SettingsField → Option Value) → Prop
  | environment : Says c canReadFiles env environment (Environment.gives c.envStart env)
  | envFile (read : FileReader) (content : Option String) (override : Bool) :
    Says c canReadFiles env (envFile read content override)
      (Environment.gives c.envStart ((envFile read content override).load c canReadFiles env).2)
  | given (className : String) (values : Entries Value) :
    Says c canReadFiles env (given className values) fun f => values.lookup f.name

variable {c : SettingsClass} {canReadFiles : Bool} {env : Environment} {es : Entries Value}

/-- Once its file is read, a file of variables is the environment that it leaves. -/
theorem load_envFile {read : FileReader} {content : Option String} {override : Bool}
    (h : ((envFile read content override).load c canReadFiles env).1 = .ok es) :
    Environment.load c ((envFile read content override).load c canReadFiles env).2 = .ok es := by
  cases canReadFiles with
  | false => cases h
  | true =>
    simp only [envFile, if_true] at h ⊢
    cases hread : read content override env with
    | error fault => simp [hread] at h
    | ok env' => simpa only [hread] using h

theorem load_given {className : String} {values : Entries Value}
    (h : ((given className values).load c canReadFiles env).1 = .ok es) :
    c.construct values = .ok es := by
  simp only [given] at h
  cases hmade : c.construct values with
  | error e =>
    rw [hmade] at h
    cases h
  | ok inst =>
    rw [hmade] at h
    cases h
    rfl

/-- An instance is made of what its source says. -/
theorem Says.construct {l : SettingsLoader} {saying : SettingsField → Option Value}
    (hl : l.Says c canReadFiles env saying) (hc : c.WellFormed)
    (h : (l.load c canReadFiles env).1 = .ok es) :
    ∃ given, c.construct given = .ok es ∧ ∀ f ∈ c.fields, given.lookup f.name = saying f := by
  have henv {env : Environment} (hload : Environment.load c env = .ok es) :
      ∃ given, c.construct given = .ok es ∧
          ∀ f ∈ c.fields, given.lookup f.name = Environment.gives c.envStart env f := by
    obtain ⟨given, hread, hmade⟩ := Environment.load_eq_ok.mp hload
    exact ⟨given, hmade, (Environment.lookup_readFields hc.distinct hread).2⟩
  cases hl with
  | environment => exact henv h
  | envFile read content override => exact henv (load_envFile h)
  | given className values => exact ⟨values, load_given h, fun _ _ => rfl⟩

theorem keys_load (hc : c.WellFormed) {l : SettingsLoader}
    (h : (l.load c canReadFiles env).1 = .ok es) :
    es.keys = c.fieldNames := by
  obtain ⟨given, made, hmade, hkeys⟩ := l.isInstance h
  exact hkeys.trans (SettingsClass.keys_construct hc hmade)

end SettingsLoader

namespace SettingsFactory

theorem finish_eq_ok {c : SettingsClass} {merged es : Entries Value} :
    finish c merged = .ok es ↔ c.construct merged = .ok es := by
  unfold finish
  cases hfind : c.fields.find? fun f => f.default?.isNone && !Entries.has f.name merged with
  | none => cases c.construct merged <;> simp
  | some f =>
    refine iff_of_false nofun fun hmade => ?_
    obtain ⟨-, filled, hfill, -⟩ := SettingsClass.construct_eq_ok.mp hmade
    have hvalue := SettingsClass.isSome_of_fill hfill (List.mem_of_find?_eq_some hfind)
    have hmissing := List.find?_some hfind
    rw [Bool.and_eq_true, Option.isNone_iff_eq_none, Bool.not_eq_true', Entries.has,
      Option.isSome_eq_false_iff, Option.isNone_iff_eq_none] at hmissing
    rw [hmissing.1, hmissing.2] at hvalue
    cases hvalue

variable (c : SettingsClass) (canReadFiles : Bool)

/-- The environment that some sources leave. -/
def envAfter (env : Environment) (ls : List SettingsLoader) : Environment :=
  ls.foldl (fun env l => (l.load c canReadFiles env).2) env

/-- Sources that give an instance each, and what they say, in the environments that those before
them leave. -/
inductive AllSay : Environment → List SettingsLoader → List (SettingsField → Option Value) → Prop
  | nil (env : Environment) : AllSay env [] []
  | cons {env l saying inst ls sayings} (hl : l.Says c canReadFiles env saying)
    (hload : (l.load c canReadFiles env).1 = .ok inst)
    (h : AllSay (l.load c canReadFiles env).2 ls sayings) :
    AllSay env (l :: ls) (saying :: sayings)

variable {c canReadFiles} {env : Environment}

/-- The last of some sources that say something. -/
theorem AllSay.of_concat {ls : List SettingsLoader} {l : SettingsLoader}
    {sayings : List (SettingsField → Option Value)}
    (h : AllSay c canReadFiles env (ls ++ [l]) sayings) :
    ∃ before last inst, sayings = before ++ [last] ∧ AllSay c canReadFiles env ls before ∧
      l.Says c canReadFiles (envAfter c canReadFiles env ls) last ∧
      (l.load c canReadFiles (envAfter c canReadFiles env ls)).1 = .ok inst := by
  induction ls generalizing env sayings with
  | nil =>
    cases h with
    | cons hl hload h =>
      cases h
      exact ⟨[], _, _, rfl, .nil env, hl, hload⟩
  | cons l' ls ih =>
    cases h with
    | cons hl hload h =>
      obtain ⟨before, last, inst, rfl, hbefore, hlast, hinst⟩ := ih h
      exact ⟨_ :: before, last, inst, rfl, .cons hl hload hbefore, hlast, hinst⟩

theorem gather_cons {merged es : Entries Value} {l : SettingsLoader} (ls : List SettingsLoader)
    (h : (l.load c canReadFiles env).1 = .ok es) :
    gather c canReadFiles merged env (l :: ls) =
      gather c canReadFiles (merged.merge es) (l.load c canReadFiles env).2 ls := by
  have hload : l.load c canReadFiles env = (.ok es, (l.load c canReadFiles env).2) := Prod.ext h rfl
  rw [gather, hload]

/-- If all goes well, the first source gives an instance that is merged, or it is passed over. -/
theorem gather_cons_cases {merged values : Entries Value} {l : SettingsLoader}
    {ls : List SettingsLoader} (h : (gather c canReadFiles merged env (l :: ls)).1 = .ok values) :
    (∃ es, (l.load c canReadFiles env).1 = .ok es ∧
      (gather c canReadFiles (merged.merge es) (l.load c canReadFiles env).2 ls).1 = .ok values) ∨
    ∃ f, (l.load c canReadFiles env).1 = .error f ∧
      (gather c canReadFiles merged (l.load c canReadFiles env).2 ls).1 = .ok values := by
  cases hl : (l.load c canReadFiles env).1 with
  | ok es =>
    rw [gather_cons ls hl] at h
    exact .inl ⟨es, rfl, h⟩
  | error f =>
    have hload : l.load c canReadFiles env = (.error f, (l.load c canReadFiles env).2) :=
      Prod.ext hl rfl
    rw [gather, hload] at h
    dsimp only at h
    split at h
    · exact .inr ⟨f, rfl, h⟩
    · cases h

/-- Of several instances only the last remains. -/
theorem gather_concat (hc : c.WellFormed) {merged inst : Entries Value} {ls : List SettingsLoader}
    {l : SettingsLoader} {sayings : List (SettingsField → Option Value)}
    (hsay : AllSay c canReadFiles env ls sayings)
    (hlast : (l.load c canReadFiles (envAfter c canReadFiles env ls)).1 = .ok inst)
    (hm : merged = [] ∨ merged.keys = c.fieldNames) :
    gather c canReadFiles merged env (ls ++ [l]) = (.ok inst, []) := by
  have hmerge {env : Environment} {l : SettingsLoader} {es : Entries Value}
      (h : (l.load c canReadFiles env).1 = .ok es) {merged : Entries Value}
      (hm : merged = [] ∨ merged.keys = c.fieldNames) :
      merged.merge es = es ∧ es.keys = c.fieldNames := by
    have hkeys := SettingsLoader.keys_load hc h
    exact ⟨Entries.merge_of_keys_eq (hkeys ▸ hc.distinct) (hkeys ▸ hm), hkeys⟩
  induction hsay generalizing merged with
  | nil env =>
    have hlast : (l.load c canReadFiles env).1 = .ok inst := hlast
    rw [List.nil_append, gather_cons [] hlast, (hmerge hlast hm).1]
    rfl
  | cons _ hes _ ih =>
    rw [List.cons_append, gather_cons _ hes, (hmerge hes hm).1]
    exact ih hlast (.inr (hmerge hes hm).2)

theorem gather_single (hc : c.WellFormed) {l : SettingsLoader} {inst : Entries Value}
    (h : (l.load c canReadFiles env).1 = .ok inst) :
    gather c canReadFiles [] env [l] = (.ok inst, []) :=
  gather_concat hc (.nil env) h (.inl rfl)

theorem create_eq_of_gather {loaders : List SettingsLoader} {merged : Entries Value}
    {events : List LogEvent} (h : gather c canReadFiles [] env loaders = (.ok merged, events))
    (overrides : Entries Value) :
    create c canReadFiles (some loaders) overrides env =
      (finish c (merged.merge overrides), events) := by
  rw [create, Option.getD_some, h]

/-- Settings are made of what is gathered and of the overrides. -/
theorem create_eq_ok {loaders : Option (List SettingsLoader)} {overrides es : Entries Value}
    {events : List LogEvent} (h : create c canReadFiles loaders overrides env = (.ok es, events)) :
    ∃ values, (gather c canReadFiles [] env (loaders.getD [.environment])).1 = .ok values ∧
      c.construct (values.merge overrides) = .ok es := by
  rw [create] at h
  cases hgather : gather c canReadFiles [] env (loaders.getD [.environment]) with
  | mk outcome noted =>
    rw [hgather] at h
    cases outcome with
    | error f => cases h
    | ok values => exact ⟨values, rfl, finish_eq_ok.mp (congrArg Prod.fst h)⟩

end SettingsFactory
end SearchSource
