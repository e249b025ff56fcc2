import SearchSource.Proofs.Settings.Typing

/-! What holds of every instance of the connection settings, however it comes into being. Main
statement: `sound_of_made`. -/
namespace SearchSource

namespace Value

def isText (v : Value) : Bool := v.asText?.isSome

def isTextOrNull : Value → Bool
  | null => true
  | v => v.isText

def isListOfTexts : Value → Bool
  | list vs => vs.all isText
  | _ => false

/-- A number or nothing; an integer passes for a double. -/
def isNumberOrNull : Value → Bool
  | null | float _ | int _ | bool _ => true
  | _ => false

def isFlag : Value → Bool
  | bool _ => true
  | _ => false

/-- A text that is not empty. -/
def IsGiven (v : Value) : Prop := ∃ s, v.asText? = some s ∧ s ≠ ""

/-- Nothing, or the empty text. -/
def IsAbsent (v : Value) : Prop := v = null ∨ v = text ""

theorem given_or_absent {v : Value} (h : v.isTextOrNull) :
    v.holds = true ∧ v.IsGiven ∧ ¬ v.IsAbsent ∨ v.holds = false ∧ v.IsAbsent ∧ ¬ v.IsGiven := by
  cases v with
  | null => exact .inr ⟨rfl, .inl rfl, nofun⟩
  | text s =>
    by_cases hs : s = ""
    · subst hs
      exact .inr ⟨rfl, .inr rfl, fun ⟨_, ht, hne⟩ => hne (Option.some.inj ht).symm⟩
    · exact .inl ⟨by simp [holds, hs], ⟨s, rfl, hs⟩, by simp [IsAbsent, hs]⟩
  | constant c =>
    have hword : c.word ≠ "" := by
      cases c with
      | operator o => cases o <;> decide
      | function f => cases f <;> decide
    exact .inl ⟨rfl, ⟨c.word, rfl, hword⟩, by simp [IsAbsent]⟩
  | _ => cases h

end Value

namespace SettingsClass

variable {c : SettingsClass} {es : Entries Value}

theorem fill_self (hn : c.fieldNames.Nodup) (hkeys : es.keys = c.fieldNames) :
    fill c.name es c.fields = .ok es := by
  have hlength : c.fields.length = es.length := by
    simpa [Entries.keys, fieldNames] using (congrArg List.length hkeys).symm
  rw [fill_eq_ok, List.forall₂_iff_get]
  refine ⟨hlength, fun i hi hi' => ?_⟩
  have hname : es[i].1 = c.fields[i].name := by
    simpa [Entries.keys, fieldNames]
      using List.getElem_of_eq hkeys (i := i) (by simpa [Entries.keys] using hi')
  have hlookup : es.lookup es[i].1 = some es[i].2 :=
    Entries.lookup_of_mem (hkeys ▸ hn) (List.getElem_mem hi')
  refine ⟨hname, ?_⟩
  rw [hname] at hlookup
  simp only [List.get_eq_getElem, hlookup, Option.some_or]

theorem construct_self (hn : c.fieldNames.Nodup) (hkeys : es.keys = c.fieldNames)
    (h : c.check es = .ok es) :
    c.construct es = .ok es :=
  construct_eq_ok.mpr ⟨fun _ hk => hkeys ▸ hk, es, fill_self hn hkeys, h⟩

end SettingsClass

namespace Connection

variable {es es' : Entries Value}

/-- The types that the fields are declared with. -/
def declaredTypes : Entries (Value → Bool) := [
  ("_prefix", Value.isText), ("node", Value.isTextOrNull), ("nodes", Value.isListOfTexts),
  ("api_key", Value.isTextOrNull), ("username", Value.isTextOrNull),
  ("password", Value.isTextOrNull),
  ("request_timeout", Value.isNumberOrNull), ("verify_certs", Value.isFlag)]

def Fits (name : String) (v : Value) : Prop := (declaredTypes.lookup name).all (· v)

/-- What the check asks of an instance. -/
structure Checked (es : Entries Value) : Prop where
  reachable : (valueOf "node" es).holds || (valueOf "nodes" es).holds
  credentials : (valueOf "username" es).holds = (valueOf "password" es).holds
  positive : requirePositive className "request_timeout" es = .ok ()

theorem check_of_checked (h : Checked es) : check es = .ok es := by
  unfold check
  dsimp only
  rw [if_pos h.reachable, if_neg (by simpa using h.credentials), h.positive]
  rfl

theorem checked_of_check (h : check es = .ok es') : Checked es' := by
  -- the check looks at what it has filled in, which is the instance itself
  have hfilled := check_eq_ok h
  unfold check at h
  dsimp only at h
  rw [← hfilled] at h
  split at h
  · cases h
  · next hcredentials =>
    obtain ⟨_, hpositive, -⟩ := Except.bind_eq_ok.mp h
    refine ⟨?_, by simpa using hcredentials, hpositive⟩
    rw [hfilled]
    split
    · next hreachable => exact hreachable
    · have hnode : valueOf "node" (es.put "node" (.text defaultNode)) = .text defaultNode := by
        simp [valueOf, Entries.lookup_put]
      rw [hnode]
      rfl

theorem coerce_timeout {variableName raw : String} {v : Value}
    (h : Environment.coerce variableName raw (.written "float | None") = .ok v) :
    v.isNumberOrNull := by
  have hfloat : Environment.coerce variableName raw (.written "float | None") =
      ((Number.realOfText? raw).map fun r => Value.float r.toFloat).elim
        (.error (.invalid variableName (.text raw) "expected float")) .ok := rfl
  rw [hfloat] at h
  cases hr : Number.realOfText? raw with
  | none => simp [hr] at h
  | some r =>
    simp only [hr, Option.map_some, Option.elim_some, Except.ok.injEq] at h
    rw [← h]
    rfl

theorem declares_settings : settings.Declares Fits where
  default := by
    intro f hf v hv
    simp only [settings, List.mem_cons, List.not_mem_nil, or_false] at hf
    rcases hf with rfl | rfl | rfl | rfl | rfl | rfl | rfl | rfl <;> cases hv <;> rfl
  read := by
    simp only [settings, List.forall_mem_cons]
    refine ⟨?start, ?node, ?nodes, ?key, ?user, ?password, ?timeout, ?certs, List.forall_mem_nil _⟩
    case nodes =>
      intro variableName raw v hv
      have hlist : Environment.coerce variableName raw (.written "list[str]") =
        .ok (.list ((Text.commaList raw).map .text)) := rfl
      cases Except.ok.inj (hlist.symm.trans hv)
      exact List.all_eq_true.mpr (by simp [Value.isText, Value.asText?])
    case timeout => exact fun _ _ _ hv => coerce_timeout hv
    all_goals
      rintro variableName raw v ⟨⟩
      rfl
  check := by
    intro es es' hes h
    rw [check_eq_ok h]
    split
    · exact hes
    · exact Entries.forall_mem_put hes rfl

/-- Something is there exactly if a condition holds. -/
def ThereIf (P : Prop) (v : Value) (found : Option Value) : Prop :=
  P ∧ found = some v ∨ ¬ P ∧ found = none

/-- What holds of an instance. -/
structure Sound (es : Entries Value) : Prop where
  /-- The nodes, if there are any, and else the one node. -/
  hosts : ∃ ns, Connection.hosts es = .ok ns ∧ ns ≠ [] ∧ (∀ n ∈ ns, n ≠ .null) ∧
    (valueOf "nodes" es = .list ns ∨ valueOf "nodes" es = .list [] ∧ ns = [valueOf "node" es])
  credentials : (valueOf "username" es).IsGiven ∧ (valueOf "password" es).IsGiven ∨
    (valueOf "username" es).IsAbsent ∧ (valueOf "password" es).IsAbsent
  options : ∃ os, clientOptions es = .ok os ∧
    ThereIf (valueOf "username" es).IsGiven (.tuple [valueOf "username" es, valueOf "password" es])
      (os.lookup "basic_auth") ∧
    ThereIf (valueOf "api_key" es).IsGiven (valueOf "api_key" es) (os.lookup "api_key") ∧
    ThereIf (valueOf "request_timeout" es ≠ .null) (valueOf "request_timeout" es)
      (os.lookup "request_timeout")
  /-- Its own values make the same instance again. -/
  again : settings.construct es = .ok es

theorem declared_valueOf (hes : AllFit Fits es) (hkeys : es.keys = settings.fieldNames)
    {name : String} {type : Value → Bool} (htype : declaredTypes.lookup name = some type) :
    type (valueOf name es) := by
  have hnames : declaredTypes.keys = settings.fieldNames := rfl
  have hkey : name ∈ es.keys := by
    by_contra hnot
    rw [hkeys, ← hnames, ← Entries.lookup_eq_none, htype] at hnot
    cases hnot
  cases hlookup : es.lookup name with
  | none => exact absurd hkey (Entries.lookup_eq_none.mp hlookup)
  | some v =>
    have hfits : Fits name v := hes _ (Entries.mem_of_lookup hlookup)
    rw [valueOf, hlookup]
    rwa [Fits, htype] at hfits

theorem hosts_of_checked (hnodes : (valueOf "nodes" es).isListOfTexts) (h : Checked es) :
    ∃ ns, hosts es = .ok ns ∧ ns ≠ [] ∧ (∀ n ∈ ns, n ≠ .null) ∧
      (valueOf "nodes" es = .list ns ∨ valueOf "nodes" es = .list [] ∧
        ns = [valueOf "node" es]) := by
  have hreachable := h.reachable
  unfold hosts
  cases hlist : valueOf "nodes" es with
  | list vs =>
    rw [hlist] at hnodes hreachable
    cases vs with
    | nil =>
      rw [Bool.or_eq_true] at hreachable
      have hholds : (valueOf "node" es).holds := hreachable.resolve_right nofun
      refine ⟨[valueOf "node" es], rfl, nofun, ?_, .inr ⟨rfl, rfl⟩⟩
      intro n hn hnull
      rw [← List.mem_singleton.mp hn, hnull] at hholds
      cases hholds
    | cons v vs =>
      refine ⟨v :: vs, rfl, nofun, ?_, .inl rfl⟩
      intro n hn hnull
      have htext : n.isText := List.all_eq_true.mp hnodes n hn
      rw [hnull] at htext
      cases htext
  | _ =>
    rw [hlist] at hnodes
    cases hnodes

def unlessNull : Value → Option Value
  | .null => none
  | v => some v

/-- The options that a client may get, each with what it takes if anything. -/
def optionSlots (es : Entries Value) (ns : List Value) : Entries (Option Value) :=
  [("hosts", some (.list ns)), ("verify_certs", some (valueOf "verify_certs" es)),
    ("api_key", if (valueOf "api_key" es).holds then some (valueOf "api_key" es) else none),
    ("basic_auth", if (valueOf "username" es).holds then
      some (.tuple [valueOf "username" es, valueOf "password" es]) else none),
    ("request_timeout", unlessNull (valueOf "request_timeout" es))]

theorem clientOptions_eq_present {ns : List Value} (h : hosts es = .ok ns) :
    clientOptions es = .ok (Entries.present (optionSlots es ns)) := by
  have hsplit : optionSlots es ns =
      [("hosts", some (.list ns)), ("verify_certs", some (valueOf "verify_certs" es))] ++
      [("api_key", if (valueOf "api_key" es).holds then some (valueOf "api_key" es) else none)] ++
      [("basic_auth", if (valueOf "username" es).holds then
        some (.tuple [valueOf "username" es, valueOf "password" es]) else none)] ++
      [("request_timeout", unlessNull (valueOf "request_timeout" es))] := rfl
  have hslot (k : String) (v : Value) (b : Bool) :
      Entries.present [(k, if b then some v else none)] = if b then [(k, v)] else [] := by
    cases b <;> rfl
  unfold clientOptions
  rw [h, hsplit]
  simp only [Entries.present_append, hslot]
  cases valueOf "request_timeout" es <;> rfl

theorem lookup_clientOptions {ns : List Value} {os : Entries Value} (h : hosts es = .ok ns)
    (hos : clientOptions es = .ok os) (k : String) :
    os.lookup k = ((optionSlots es ns).lookup k).join := by
  have hnodup : (optionSlots es ns).keys.Nodup := by
    change ["hosts", "verify_certs", "api_key", "basic_auth", "request_timeout"].Nodup
    decide
  rw [clientOptions_eq_present h] at hos
  rw [← Except.ok.inj hos, Entries.lookup_present hnodup]

theorem thereIf_given {v w : Value} (h : v.isTextOrNull) :
    ThereIf v.IsGiven w (if v.holds then some w else none) := by
  rcases Value.given_or_absent h with ⟨hholds, hgiven, -⟩ | ⟨hholds, -, hnot⟩
  · exact .inl ⟨hgiven, if_pos hholds⟩
  · exact .inr ⟨hnot, if_neg (by simp [hholds])⟩

theorem thereIf_not_null (v : Value) : ThereIf (v ≠ .null) v (unlessNull v) := by
  cases v with
  | null => exact .inr ⟨fun h => h rfl, rfl⟩
  | _ => exact .inl ⟨nofun, rfl⟩

/-- All instances are sound: made of values of the declared types, read from any environment, or
merged from sources and overrides of the declared types. -/
theorem sound_of_made (h : settings.Made Fits es) : Sound es := by
  obtain ⟨given, hgiven, hmade⟩ := h.constructed declares_settings
  have hkeys : es.keys = settings.fieldNames :=
    SettingsClass.keys_construct wellFormed_settings hmade
  have hes : AllFit Fits es := declares_settings.construct hgiven hmade
  have hchecked : Checked es := by
    obtain ⟨-, filled, -, hcheck⟩ := SettingsClass.construct_eq_ok.mp hmade
    exact checked_of_check hcheck
  have hnodes : (valueOf "nodes" es).isListOfTexts := declared_valueOf hes hkeys rfl
  have huser : (valueOf "username" es).isTextOrNull := declared_valueOf hes hkeys rfl
  have hpassword : (valueOf "password" es).isTextOrNull := declared_valueOf hes hkeys rfl
  have hkey : (valueOf "api_key" es).isTextOrNull := declared_valueOf hes hkeys rfl
  have hhosts := hosts_of_checked hnodes hchecked
  obtain ⟨ns, hns, -⟩ := id hhosts
  have hoption := lookup_clientOptions hns (clientOptions_eq_present hns)
  refine ⟨hhosts, ?credentials, ⟨_, clientOptions_eq_present hns, ?auth, ?key, ?timeout⟩, ?again⟩
  case credentials =>
    have hboth := hchecked.credentials
    rcases Value.given_or_absent huser with ⟨hu, hgivenUser, -⟩ | ⟨hu, habsentUser, -⟩
    · rcases Value.given_or_absent hpassword with ⟨-, hgivenPassword, -⟩ | ⟨hp, -⟩
      · exact .inl ⟨hgivenUser, hgivenPassword⟩
      · rw [hu, hp] at hboth
        cases hboth
    · rcases Value.given_or_absent hpassword with ⟨hp, -⟩ | ⟨-, habsentPassword, -⟩
      · rw [hu, hp] at hboth
        cases hboth
      · exact .inr ⟨habsentUser, habsentPassword⟩
  case auth =>
    rw [hoption]
    exact thereIf_given huser
  case key =>
    rw [hoption]
    exact thereIf_given hkey
  case timeout =>
    rw [hoption]
    exact thereIf_not_null _
  case again =>
    exact SettingsClass.construct_self wellFormed_settings.distinct hkeys
      (check_of_checked hchecked)

/-- A source with a user and a password. -/
def elasticUser : SettingsLoader :=
  .given "UserLoader" [("username", .text "elastic"), ("password", .text "changeme")]

theorem sound_of_made_elastic :
    ∃ es,
      SettingsFactory.create settings true (some [elasticUser]) [("request_timeout", .int 5)] [] =
        (.ok es, []) ∧ Sound es := by
  obtain ⟨es, h⟩ : ∃ es,
      SettingsFactory.create settings true (some [elasticUser]) [("request_timeout", .int 5)] [] =
        (.ok es, []) := ⟨_, rfl⟩
  have hsource : AllFit Fits [("username", .text "elastic"), ("password", .text "changeme")] :=
    List.forall_mem_cons.mpr ⟨rfl, List.forall_mem_singleton.mpr rfl⟩
  have hloaders : ∀ ls, some [elasticUser] = some ls → ∀ l ∈ ls, l.Fits settings Fits := by
    rintro _ ⟨⟩
    exact List.forall_mem_singleton.mpr (SettingsLoader.fits_given declares_settings hsource)
  have hoverrides : AllFit Fits [("request_timeout", .int 5)] := List.forall_mem_singleton.mpr rfl
  exact ⟨es, h, sound_of_made (.merged hloaders hoverrides h)⟩

end Connection
end SearchSource
