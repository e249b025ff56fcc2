import SearchSource.Proofs.Settings.Sources
import SearchSource.Proofs.Text.Case

/-! The variables that settings are read from. An instance depends on the variables of its fields
alone; those of the connection are seven documented ones, and one more for the text that all of them
begin with. Main statement: `load_eq_iff_of_agree`. -/
namespace SearchSource

namespace Environment
open Text (isAscii)

/-- The variable of a name in ASCII letters. -/
theorem variableName_of_ascii {start field : String} (hs : start.toList.all isAscii)
    (hf : field.toList.all isAscii) :
    variableName start field =
      String.ofList (((start.toList ++ '_' :: field.toList).map Char.toUpper).dropWhile
        (· = '_')) := by
  -- the start is put in upper case by itself and once more with the rest, which changes nothing
  have hletters : ∀ n < 0x80, isAscii (Char.ofNat n).toUpper ∧
      (Char.ofNat n).toUpper.toUpper = (Char.ofNat n).toUpper := by decide
  have hletter {c : Char} (h : isAscii c) : isAscii c.toUpper ∧ c.toUpper.toUpper = c.toUpper := by
    have hc := hletters c.toNat (of_decide_eq_true h)
    rwa [Char.ofNat_toNat] at hc
  have hstart : ∀ c ∈ start.toList, isAscii c := List.all_eq_true.mp hs
  have hupper : (Text.upper start).toList = start.toList.map Char.toUpper := by
    rw [Text.upper_of_ascii hs, String.toList_ofList]
  have hjoined : (Text.upper start ++ "_" ++ field).toList =
      start.toList.map Char.toUpper ++ '_' :: field.toList := by
    rw [String.toList_append, String.toList_append, hupper, List.append_assoc]
    rfl
  have hascii : (Text.upper start ++ "_" ++ field).toList.all isAscii := by
    rw [hjoined, List.all_append, List.all_cons, hf, Bool.and_true, List.all_map, Bool.and_eq_true]
    exact ⟨List.all_eq_true.mpr fun c hc => (hletter (hstart c hc)).1, rfl⟩
  have htwice :
      (start.toList.map Char.toUpper).map Char.toUpper = start.toList.map Char.toUpper := by
    rw [List.map_map]
    exact List.map_congr_left fun c hc => (hletter (hstart c hc)).2
  have hunderscore : Char.toUpper '_' = '_' := by decide
  rw [variableName, Text.upper_of_ascii hascii, String.toList_ofList, hjoined, List.map_append,
    htwice, List.map_cons, List.map_append, List.map_cons]

/-- The environments set these variables to the same texts, or leave them out. -/
def AgreeOn (names : List String) (env env' : Environment) : Prop :=
  ∀ name ∈ names, env.lookup name = env'.lookup name

theorem readFields_congr {start : String} {env env' : Environment} {fields : List SettingsField}
    (h : AgreeOn (fields.map fun f => variableName start f.name) env env') :
    readFields start env fields = readFields start env' fields := by
  induction fields with
  | nil => rfl
  | cons f fs ih =>
    obtain ⟨hf, hfs⟩ := List.forall_mem_cons.mp h
    unfold readFields
    dsimp only
    rw [hf, ih hfs]

end Environment

theorem SettingsClass.fill_congr {className : String} {given given' : Entries Value}
    {fields : List SettingsField} (h : ∀ f ∈ fields, given.lookup f.name = given'.lookup f.name) :
    fill className given fields = fill className given' fields := by
  induction fields with
  | nil => rfl
  | cons f fs ih =>
    obtain ⟨hf, hfs⟩ := List.forall_mem_cons.mp h
    rw [fill, fill, hf, ih hfs]

namespace Connection

/-- The variables that the documentation names. -/
def documented : List String :=
  ["ELASTICSEARCH_NODE", "ELASTICSEARCH_NODES", "ELASTICSEARCH_API_KEY", "ELASTICSEARCH_USERNAME",
    "ELASTICSEARCH_PASSWORD", "ELASTICSEARCH_REQUEST_TIMEOUT", "ELASTICSEARCH_VERIFY_CERTS"]

/-- The field that holds what the variables begin with. -/
def startField : String := "_prefix"

/-- The fields behind it. -/
def ownFields : List SettingsField := settings.fields.tail

theorem variableName_startField :
    Environment.variableName settings.envStart startField = "ELASTICSEARCH__PREFIX" := by
  rw [Environment.variableName_of_ascii (by decide) (by decide)]
  decide

theorem variableName_ownFields :
    (ownFields.map fun f => Environment.variableName settings.envStart f.name) = documented := by
  have hnames : ∀ f ∈ ownFields, f.name.toList.all Text.isAscii := by decide
  rw [List.map_congr_left fun f hf => Environment.variableName_of_ascii (by decide) (hnames f hf)]
  decide

theorem ne_startField {f : SettingsField} (hf : f ∈ ownFields) : f.name ≠ startField := by
  have hnames : ∀ f ∈ ownFields, f.name ≠ startField := by decide
  exact hnames f hf

/-! ### The field that holds what the variables begin with -/

/-- What an environment says of this field. -/
def startGiven (env : Environment) : Entries Value :=
  match env.lookup "ELASTICSEARCH__PREFIX" with
  | some raw => [(startField, .text raw)]
  | none => []

/-- What this field holds in the end. -/
def startOf (env : Environment) : String :=
  (env.lookup "ELASTICSEARCH__PREFIX").getD "ELASTICSEARCH"

theorem fields_eq : settings.fields =
    ⟨startField, .written "dataclasses.ClassVar[str]", some (.text "ELASTICSEARCH")⟩ :: ownFields :=
  rfl

theorem readFields_settings (env : Environment) :
    Environment.readFields settings.envStart env settings.fields =
      (Environment.readFields settings.envStart env ownFields).map (startGiven env ++ ·) := by
  rw [fields_eq, Environment.readFields, startGiven]
  dsimp only
  rw [variableName_startField]
  cases env.lookup "ELASTICSEARCH__PREFIX" with
  | none => cases Environment.readFields settings.envStart env ownFields <;> rfl
  | some raw =>
    have htext :
        Environment.coerce "ELASTICSEARCH__PREFIX" raw (.written "dataclasses.ClassVar[str]") =
          .ok (.text raw) := rfl
    dsimp only
    rw [htext]
    cases Environment.readFields settings.envStart env ownFields <;> rfl

section Cons

variable {name : String} (hname : name ≠ startField) (v : Value) (es : Entries Value)

include hname

theorem lookup_cons_start : List.lookup name ((startField, v) :: es) = es.lookup name := by
  rw [Entries.lookup_cons_of_ne hname]

theorem valueOf_cons_start : valueOf name ((startField, v) :: es) = valueOf name es := by
  rw [valueOf, lookup_cons_start hname, valueOf]

end Cons

theorem check_cons_start (v : Value) (es : Entries Value) :
    check ((startField, v) :: es) = (check es).map ((startField, v) :: ·) := by
  have hput : Entries.put "node" (.text defaultNode) ((startField, v) :: es) =
      (startField, v) :: Entries.put "node" (.text defaultNode) es := by
    rw [Entries.put, if_neg (by decide)]
  unfold check
  dsimp only
  rw [valueOf_cons_start (by decide), valueOf_cons_start (by decide), hput,
    ← apply_ite (List.cons (startField, v))]
  -- a node may have been filled in by now, behind the field in question
  generalize (if (valueOf "node" es).holds || (valueOf "nodes" es).holds then es
    else Entries.put "node" (.text defaultNode) es) = filled
  have hpositive : requirePositive className "request_timeout" ((startField, v) :: filled) =
      requirePositive className "request_timeout" filled := by
    rw [requirePositive, lookup_cons_start (by decide), requirePositive]
  rw [valueOf_cons_start (by decide), valueOf_cons_start (by decide), hpositive]
  split
  · rfl
  · cases requirePositive className "request_timeout" filled <;> rfl

theorem construct_start {env : Environment} {own : Entries Value}
    (h : Environment.readFields settings.envStart env ownFields = .ok own) :
    settings.construct (startGiven env ++ own) =
      (SettingsClass.fill className own ownFields >>= check).map
        ((startField, .text (startOf env)) :: ·) := by
  have hdistinct : (ownFields.map (·.name)).Nodup := by decide
  obtain ⟨hkeys, -⟩ := Environment.lookup_readFields hdistinct h
  have hunknown : (startGiven env ++ own).find? (fun e => e.1 ∉ settings.fieldNames) = none := by
    rw [List.find?_eq_none]
    intro e he
    have hmem : e.1 ∈ settings.fieldNames := by
      rcases List.mem_append.mp he with he | he
      · rw [startGiven] at he
        split at he
        · rw [List.mem_singleton.mp he]
          exact List.mem_cons_self
        · cases he
      · exact List.mem_cons_of_mem _ (hkeys _ (List.mem_map_of_mem he))
    simpa using hmem
  have hstart : ((startGiven env ++ own).lookup startField).or (some (.text "ELASTICSEARCH")) =
      some (.text (startOf env)) := by
    have hown : own.lookup startField = none := by
      rw [Entries.lookup_eq_none]
      intro hk
      obtain ⟨f, hf, hname⟩ := List.mem_map.mp (hkeys _ hk)
      exact ne_startField hf hname
    rw [List.lookup_append, hown, Option.or_none, startGiven, startOf]
    cases env.lookup "ELASTICSEARCH__PREFIX" <;> rfl
  have hothers : SettingsClass.fill className (startGiven env ++ own) ownFields =
      SettingsClass.fill className own ownFields := by
    refine SettingsClass.fill_congr fun f hf => ?_
    rw [startGiven]
    split
    · exact lookup_cons_start (ne_startField hf) _ _
    · rfl
  rw [SettingsClass.construct, hunknown, fields_eq, SettingsClass.fill]
  dsimp only
  rw [hstart]
  dsimp only
  rw [show settings.name = className from rfl, hothers]
  cases SettingsClass.fill className own ownFields with
  | error e => rfl
  | ok es => exact check_cons_start _ es

/-! ### The other fields -/

/-- The instance that an environment gives, without the field that holds what the variables begin
with. -/
def loadOwn (env : Environment) : Except Failure (Entries Value) :=
  match Environment.readFields settings.envStart env ownFields with
  | .error e => .error e.toFailure
  | .ok own =>
    match SettingsClass.fill className own ownFields >>= check with
    | .ok es => .ok es
    | .error e => .error (e.toReport "Failed to load settings: ")

theorem load_eq_map (env : Environment) :
    Environment.load settings env = (loadOwn env).map ((startField, .text (startOf env)) :: ·) := by
  unfold Environment.load loadOwn
  rw [readFields_settings]
  cases hread : Environment.readFields settings.envStart env ownFields with
  | error e => rfl
  | ok own =>
    have hmap : (Except.ok own : Except SetupError (Entries Value)).map (startGiven env ++ ·) =
      .ok (startGiven env ++ own) := rfl
    rw [hmap]
    dsimp only
    rw [construct_start hread]
    cases SettingsClass.fill className own ownFields >>= check <;> rfl

theorem loadOwn_congr {env env' : Environment} (h : Environment.AgreeOn documented env env') :
    loadOwn env = loadOwn env' := by
  rw [← variableName_ownFields] at h
  rw [loadOwn, Environment.readFields_congr h, loadOwn]

/-- With the documented variables the same, the settings are the same exactly if there is no
instance at all, or the variable of the text that the others begin with says the same. In any case
the failure is the same, and so are the other fields, the nodes and the options of the client. -/
theorem load_eq_iff_of_agree {env env' : Environment}
    (h : Environment.AgreeOn documented env env') :
    (Environment.load settings env = Environment.load settings env' ↔
      (∃ e, Environment.load settings env = .error e) ∨ startOf env = startOf env') ∧
    (∀ e, Environment.load settings env = .error e ↔ Environment.load settings env' = .error e) ∧
    ∀ es es', Environment.load settings env = .ok es → Environment.load settings env' = .ok es' →
      (∀ name, name ≠ "_prefix" → es.lookup name = es'.lookup name) ∧ hosts es = hosts es' ∧
        clientOptions es = clientOptions es' := by
  rw [load_eq_map env, load_eq_map env', ← loadOwn_congr h]
  cases loadOwn env with
  | error e =>
    refine ⟨iff_of_true rfl (.inl ⟨e, rfl⟩), fun _ => Iff.rfl, ?_⟩
    intro es es' hes
    cases hes
  | ok own =>
    refine ⟨?_, fun _ => iff_of_false nofun nofun, ?_⟩
    · constructor
      · intro heq
        have hhead := (List.cons.inj (Except.ok.inj heq)).1
        exact .inr (Value.text.inj (Prod.mk.inj hhead).2)
      · rintro (⟨_, ⟨⟩⟩ | hstart)
        rw [hstart]
    · rintro _ _ ⟨⟩ ⟨⟩
      have hlookup (name : String) (hname : name ≠ "_prefix") :
          List.lookup name ((startField, .text (startOf env)) :: own) =
            List.lookup name ((startField, .text (startOf env')) :: own) := by
        rw [lookup_cons_start hname, lookup_cons_start hname]
      have hvalue {name : String} (hname : name ≠ "_prefix") :
          valueOf name ((startField, .text (startOf env)) :: own) =
            valueOf name ((startField, .text (startOf env')) :: own) := by
        rw [valueOf, hlookup name hname, valueOf]
      have hhosts : hosts ((startField, .text (startOf env)) :: own) =
          hosts ((startField, .text (startOf env')) :: own) := by
        rw [hosts, hvalue (by decide), hvalue (by decide), hosts]
      refine ⟨hlookup, hhosts, ?_⟩
      rw [clientOptions, hhosts, hvalue (by decide), hvalue (by decide), hvalue (by decide),
        hvalue (by decide), hvalue (by decide), clientOptions]

/-- An environment with none of the documented variables gives the defaults. -/
theorem load_of_undocumented {env : Environment} (h : Environment.AgreeOn documented env []) :
    ∃ own, Environment.load settings env = .ok ((startField, .text (startOf env)) :: own) := by
  obtain ⟨own, hown⟩ : ∃ own, loadOwn [] = .ok own := ⟨_, rfl⟩
  refine ⟨own, ?_⟩
  rw [load_eq_map, loadOwn_congr h, hown]
  rfl

/-- An environment that sets a variable which is not documented, and one that is not read. -/
def otherStart : Environment := [("PATH", "/bin"), ("ELASTICSEARCH__PREFIX", "OTHER")]

theorem agreeOn_otherStart : Environment.AgreeOn documented otherStart [] := by
  have h : ∀ name ∈ documented, otherStart.lookup name = List.lookup name [] := by decide
  exact h

theorem load_eq_iff_of_agree_otherStart :
    Environment.load settings otherStart ≠ Environment.load settings [] ∧
      ∃ es es', Environment.load settings otherStart = .ok es ∧
        Environment.load settings [] = .ok es' ∧
        clientOptions es = clientOptions es' := by
  obtain ⟨hsame, -, hfields⟩ := load_eq_iff_of_agree agreeOn_otherStart
  obtain ⟨own, hown⟩ := load_of_undocumented agreeOn_otherStart
  obtain ⟨own', hown'⟩ := load_of_undocumented fun _ _ => rfl
  refine ⟨fun heq => ?_, _, _, hown, hown', (hfields _ _ hown hown').2.2⟩
  rcases hsame.mp heq with ⟨e, he⟩ | hstart
  · cases hown.symm.trans he
  · exact absurd hstart (by decide)

/-- A variable that is not documented decides a field. -/
theorem otherStart_read :
    Environment.AgreeOn documented otherStart [] ∧
      ∃ es es', Environment.load settings otherStart = .ok es ∧
        Environment.load settings [] = .ok es' ∧
        es.lookup "_prefix" = some (.text "OTHER") ∧
        es'.lookup "_prefix" = some (.text "ELASTICSEARCH") := by
  obtain ⟨own, hown⟩ := load_of_undocumented agreeOn_otherStart
  obtain ⟨own', hown'⟩ := load_of_undocumented fun _ _ => rfl
  exact ⟨agreeOn_otherStart, _, _, hown, hown', rfl, rfl⟩

end Connection
end SearchSource
