import SearchSource.Proofs.Settings.Connection
import SearchSource.Proofs.Settings.Variables
import SearchSource.Proofs.Settings.Loading
import SearchSource.Proofs.Number.Double

/-! The timeout of a connection. Every way to an instance turns down a timeout at or below zero, but
a double that is no number is neither, and passes. Main statement: `timeout_above_zero_iff`. -/
namespace SearchSource
open Number

namespace Value

/-- A number above zero. -/
def IsAboveZero : Value → Prop
  | int n => 0 < n
  | bool b => b = true
  | float x => 0.0 < x
  | decimal (.finite s) => s.negative = false ∧ 0 < s.digits
  | decimal (.infinite negative) => negative = false
  | _ => False

/-- A double that is no number. -/
def IsNoNumber : Value → Prop
  | float x => x.isNaN = true
  | _ => False

theorem isPositive_iff {v : Value} : v.isPositive = .ok true ↔ v.IsAboveZero ∨ v.IsNoNumber := by
  cases v with
  | int n => simp [isPositive, IsAboveZero, IsNoNumber]
  | bool b => simp [isPositive, IsAboveZero, IsNoNumber]
  | float x =>
    simp only [isPositive, IsAboveZero, IsNoNumber, Except.ok.injEq, Bool.not_eq_true',
      decide_eq_false_iff_not]
    exact not_le_zero_iff
  | decimal d =>
    cases d with
    | finite s =>
      simp [isPositive, Decimal.isPositive, IsAboveZero, IsNoNumber, Nat.pos_iff_ne_zero]
    | infinite negative => simp [isPositive, Decimal.isPositive, IsAboveZero, IsNoNumber]
    | undefined negative signalling diagnosis =>
      exact iff_of_false nofun (by simp [IsAboveZero, IsNoNumber])
  | _ => exact iff_of_false nofun (by simp [IsAboveZero, IsNoNumber])

theorem not_isAboveZero_of_isNoNumber {v : Value} (h : v.IsNoNumber) : ¬ v.IsAboveZero := by
  cases v with
  | float x => exact not_zero_lt_of_isNaN h
  | _ => exact h.elim

end Value

/-- What passes for positive where it has to be: nothing, a number above zero, or what is no
number. -/
theorem requirePositive_eq_ok_iff {className name : String} {es : Entries Value} :
    requirePositive className name es = .ok () ↔
      ∃ v, es.lookup name = some v ∧ (v = .null ∨ v.IsAboveZero ∨ v.IsNoNumber) := by
  constructor
  · intro h
    unfold requirePositive at h
    split at h
    · cases h
    · next hnull => exact ⟨.null, hnull, .inl rfl⟩
    · next v hv hlookup =>
      obtain ⟨b, hb, h⟩ := Except.bind_eq_ok.mp h
      refine ⟨v, hlookup, .inr (Value.isPositive_iff.mp ?_)⟩
      cases b with
      | true => exact hb
      | false => cases h
  · rintro ⟨v, hlookup, rfl | hv⟩
    · rw [requirePositive, hlookup]
    · have hpositive := Value.isPositive_iff.mpr hv
      have hnull : v ≠ .null := by
        rintro rfl
        cases hpositive
      simp only [requirePositive, hlookup, hpositive]
      rfl

namespace SettingsFactory

/-- The instances that sources give, in turn, each in the environment that those before it leave. -/
def instances (c : SettingsClass) (canReadFiles : Bool) :
    Environment → List SettingsLoader → List (Entries Value)
  | _, [] => []
  | env, l :: ls =>
    (l.load c canReadFiles env).1.toOption.toList ++
      instances c canReadFiles (l.load c canReadFiles env).2 ls

variable {c : SettingsClass} {canReadFiles : Bool}

/-- What is gathered is the last instance, as it has all fields. -/
theorem gather_eq_last (hc : c.WellFormed) {env : Environment} {ls : List SettingsLoader}
    {merged values : Entries Value} (hm : merged = [] ∨ merged.keys = c.fieldNames)
    (h : (gather c canReadFiles merged env ls).1 = .ok values) :
    values = (instances c canReadFiles env ls).getLast?.getD merged := by
  induction ls generalizing merged env with
  | nil => exact (Except.ok.inj h).symm
  | cons l ls ih =>
    rcases gather_cons_cases h with ⟨es, hl, hrest⟩ | ⟨f, hl, hrest⟩
    · have hkeys := SettingsLoader.keys_load hc hl
      rw [Entries.merge_of_keys_eq (hkeys ▸ hc.distinct) (hkeys ▸ hm)] at hrest
      rw [ih (.inr hkeys) hrest, instances, hl]
      simp [Except.toOption, List.getLast?_cons]
    · rw [ih hm hrest, instances, hl]
      rfl

end SettingsFactory

namespace Connection

variable {given es : Entries Value} {env : Environment}

/-- If there is a timeout, it is above zero, and so is what a client gets. -/
structure TimeoutAboveZero (es : Entries Value) : Prop where
  field : valueOf "request_timeout" es = .null ∨ (valueOf "request_timeout" es).IsAboveZero
  option : ∀ os, clientOptions es = .ok os →
    ∀ v, os.lookup "request_timeout" = some v → v.IsAboveZero

theorem eq_of_unlessNull {v w : Value} (h : unlessNull v = some w) : v = w ∧ v ≠ .null := by
  cases v with
  | null => cases h
  | _ => exact ⟨Option.some.inj h, nofun⟩

theorem timeoutAboveZero_of_field
    (h : valueOf "request_timeout" es = .null ∨ (valueOf "request_timeout" es).IsAboveZero) :
    TimeoutAboveZero es where
  field := h
  option := by
    intro os hos v hv
    obtain ⟨ns, hns, -⟩ := Except.bind_eq_ok.mp hos
    have hslot : os.lookup "request_timeout" = unlessNull (valueOf "request_timeout" es) :=
      lookup_clientOptions hns hos "request_timeout"
    obtain ⟨htimeout, hnull⟩ := eq_of_unlessNull (hslot.symm.trans hv)
    exact htimeout ▸ h.resolve_left hnull

def timeoutField : SettingsField := ⟨"request_timeout", .written "float | None", some .null⟩

theorem mem_timeoutField : timeoutField ∈ settings.fields := by
  simp [timeoutField, settings]

theorem variableName_timeoutField :
    Environment.variableName settings.envStart timeoutField.name =
      "ELASTICSEARCH_REQUEST_TIMEOUT" := by
  rw [Environment.variableName_of_ascii (by decide) (by decide)]
  decide

theorem timeout_of_construct (h : settings.construct given = .ok es) :
    valueOf "request_timeout" es = valueOf "request_timeout" given := by
  have hlookup : es.lookup "request_timeout" = (given.lookup "request_timeout").or (some .null) :=
    SettingsClass.lookup_construct wellFormed_settings h mem_timeoutField
      (leaves_settings (by decide))
  rw [valueOf, hlookup, valueOf]
  cases given.lookup "request_timeout" <;> rfl

theorem passes_of_construct (h : settings.construct given = .ok es) :
    valueOf "request_timeout" es = .null ∨ (valueOf "request_timeout" es).IsAboveZero ∨
      (valueOf "request_timeout" es).IsNoNumber := by
  obtain ⟨-, filled, -, hcheck⟩ := SettingsClass.construct_eq_ok.mp h
  obtain ⟨v, hv, hpasses⟩ := requirePositive_eq_ok_iff.mp (checked_of_check hcheck).positive
  rwa [valueOf, hv]

theorem timeoutAboveZero_iff_of_construct (h : settings.construct given = .ok es) :
    TimeoutAboveZero es ↔ ¬ (valueOf "request_timeout" given).IsNoNumber := by
  rw [← timeout_of_construct h]
  constructor
  · intro hes hno
    rcases hes.field with hnull | habove
    · rw [hnull] at hno
      exact hno
    · exact Value.not_isAboveZero_of_isNoNumber hno habove
  · intro hno
    rcases passes_of_construct h with hnull | habove | hnumber
    · exact timeoutAboveZero_of_field (.inl hnull)
    · exact timeoutAboveZero_of_field (.inr habove)
    · exact absurd hnumber hno

/-- What the variable of the timeout gives is no number exactly if it says so. -/
theorem timeoutAboveZero_iff_of_load (h : Environment.load settings env = .ok es) :
    TimeoutAboveZero es ↔ ∀ raw, env.lookup "ELASTICSEARCH_REQUEST_TIMEOUT" = some raw →
      ¬ NamesNoNumber raw := by
  obtain ⟨given, hread, hmade⟩ := Environment.load_eq_ok.mp h
  have hgiven :=
    (Environment.lookup_readFields wellFormed_settings.distinct hread).2 _ mem_timeoutField
  have hname : timeoutField.name = "request_timeout" := rfl
  rw [timeoutAboveZero_iff_of_construct hmade, valueOf, ← hname, hgiven, Environment.gives,
    variableName_timeoutField]
  cases env.lookup "ELASTICSEARCH_REQUEST_TIMEOUT" with
  | none => simp [Value.IsNoNumber]
  | some raw =>
    have hcoerce : Environment.coerce "ELASTICSEARCH_REQUEST_TIMEOUT" raw timeoutField.annotation =
      ((realOfText? raw).map fun r => Value.float r.toFloat).elim
        (.error (.invalid "ELASTICSEARCH_REQUEST_TIMEOUT" (.text raw) "expected float")) .ok := rfl
    rw [Option.bind_some, hcoerce]
    simp only [Option.some.injEq, forall_eq', ← realOfText?_isNaN_iff]
    cases realOfText? raw with
    | none => simp [Except.toOption, Value.IsNoNumber]
    | some r => simp [Except.toOption, Value.IsNoNumber]

/-- The timeout of the overrides, or else that of the last instance. -/
def timeoutAsked (overrides : Entries Value) (instances : List (Entries Value)) : Option Value :=
  (overrides.lookup "request_timeout").or (instances.getLast?.bind (·.lookup "request_timeout"))

theorem timeoutAboveZero_iff_of_create {canReadFiles : Bool}
    {loaders : Option (List SettingsLoader)} {overrides : Entries Value}
    (hov : overrides.keys.Nodup) {events : List LogEvent}
    (h : SettingsFactory.create settings canReadFiles loaders overrides env = (.ok es, events)) :
    TimeoutAboveZero es ↔ ∀ v,
      timeoutAsked overrides (SettingsFactory.instances settings canReadFiles env
        (loaders.getD [.environment])) = some v → ¬ v.IsNoNumber := by
  obtain ⟨values, hgather, hmade⟩ := SettingsFactory.create_eq_ok h
  have hlast : values.lookup "request_timeout" =
      (SettingsFactory.instances settings canReadFiles env
        (loaders.getD [.environment])).getLast?.bind (·.lookup "request_timeout") := by
    rw [SettingsFactory.gather_eq_last wellFormed_settings (.inl rfl) hgather]
    cases (SettingsFactory.instances settings canReadFiles env
      (loaders.getD [.environment])).getLast? <;> rfl
  rw [timeoutAboveZero_iff_of_construct hmade, valueOf, Entries.lookup_merge_of_nodup hov, hlast,
    timeoutAsked]
  cases (overrides.lookup "request_timeout").or _ <;> simp [Value.IsNoNumber]

/-- The timeout of an instance is above zero exactly unless it is no number: the one that is given,
the one that the variable names, or the one of the overrides or else of the last source. -/
theorem timeout_above_zero_iff (es : Entries Value) :
    (∀ given, settings.construct given = .ok es →
      (TimeoutAboveZero es ↔ ¬ (valueOf "request_timeout" given).IsNoNumber)) ∧
    (∀ env, Environment.load settings env = .ok es →
      (TimeoutAboveZero es ↔ ∀ raw, env.lookup "ELASTICSEARCH_REQUEST_TIMEOUT" = some raw →
        ¬ NamesNoNumber raw)) ∧
    ∀ canReadFiles loaders overrides env events, overrides.keys.Nodup →
      SettingsFactory.create settings canReadFiles loaders overrides env = (.ok es, events) →
      (TimeoutAboveZero es ↔ ∀ v,
        timeoutAsked overrides (SettingsFactory.instances settings canReadFiles env
          (loaders.getD [.environment])) = some v → ¬ v.IsNoNumber) :=
  ⟨fun _ => timeoutAboveZero_iff_of_construct, fun _ => timeoutAboveZero_iff_of_load,
    fun _ _ _ _ _ hov => timeoutAboveZero_iff_of_create hov⟩

/-- The instance with a timeout and all else by default. -/
def timeoutOnly (v : Value) : Entries Value :=
  [("_prefix", .text "ELASTICSEARCH"), ("node", .text defaultNode), ("nodes", .list []),
    ("api_key", .null),
    ("username", .null), ("password", .null), ("request_timeout", v), ("verify_certs", .bool true)]

theorem construct_timeout {v : Value} (h : v.IsAboveZero ∨ v.IsNoNumber) :
    settings.construct [("request_timeout", v)] = .ok (timeoutOnly v) := by
  have hpositive : requirePositive className "request_timeout" (timeoutOnly v) = .ok () :=
    requirePositive_eq_ok_iff.mpr ⟨v, rfl, .inr h⟩
  have hcheck : settings.construct [("request_timeout", v)] =
      requirePositive className "request_timeout" (timeoutOnly v) >>= fun _ =>
        .ok (timeoutOnly v) := rfl
  rw [hcheck, hpositive]
  rfl

/-- The variable of the timeout is that of no other field, and all others have a default. -/
theorem variableName_ne_timeout {f : SettingsField} (hf : f ∈ settings.fields.eraseIdx 6) :
    Environment.variableName settings.envStart f.name ≠ "ELASTICSEARCH_REQUEST_TIMEOUT" ∧
      f.default?.isSome := by
  have hothers : ∀ f ∈ settings.fields.eraseIdx 6,
    f.name.toList.all Text.isAscii ∧ f.default?.isSome ∧
      String.ofList (((settings.envStart.toList ++ '_' :: f.name.toList).map Char.toUpper).dropWhile
        (· = '_')) ≠ "ELASTICSEARCH_REQUEST_TIMEOUT" := by decide
  obtain ⟨hascii, hdefault, hne⟩ := hothers f hf
  rw [Environment.variableName_of_ascii (by decide) hascii]
  exact ⟨hne, hdefault⟩

/-- An environment that says a timeout and nothing else. -/
theorem load_timeout {raw : String} {v : Value} (hv : v.IsAboveZero ∨ v.IsNoNumber)
    (h : Environment.coerce "ELASTICSEARCH_REQUEST_TIMEOUT" raw timeoutField.annotation = .ok v) :
    Environment.load settings [("ELASTICSEARCH_REQUEST_TIMEOUT", raw)] = .ok (timeoutOnly v) := by
  have hread : Environment.readFields settings.envStart [("ELASTICSEARCH_REQUEST_TIMEOUT", raw)]
      (settings.fields.take 6 ++ timeoutField :: settings.fields.drop 7) =
          .ok [("request_timeout", v)] := by
    have hraw : List.lookup (Environment.variableName settings.envStart timeoutField.name)
        [("ELASTICSEARCH_REQUEST_TIMEOUT", raw)] = some raw := by
      rw [variableName_timeoutField, List.lookup_cons_self]
    refine Environment.readFields_single (fun f hf => ?_) hraw ?_
    · obtain ⟨hne, hdefault⟩ := variableName_ne_timeout hf
      refine ⟨?_, hdefault⟩
      rw [Entries.lookup_cons_of_ne hne, List.lookup_nil]
    · rw [variableName_timeoutField, h]
  exact Environment.load_eq_ok.mpr ⟨_, hread, construct_timeout hv⟩

/-- A source whose timeout is no number. -/
def unlimited : SettingsLoader := .given "TimeoutLoader" [("request_timeout", .float notANumber)]

/-- Timeouts that are given, named, and put over another one. -/
theorem timeout_above_zero_iff_overridden :
    TimeoutAboveZero (timeoutOnly (.int 30)) ∧
      ¬ TimeoutAboveZero (timeoutOnly (.float notANumber)) ∧
      ∃ es, SettingsFactory.create settings true (some [unlimited])
        [("request_timeout", .int 5)] [] = (.ok es, []) ∧ TimeoutAboveZero es := by
  have habove : (Value.int 30).IsAboveZero := show 0 < (30 : Int) by decide
  have hnumber : (Value.float notANumber).IsNoNumber := show notANumber.isNaN = true from rfl
  refine ⟨?_, ?_, timeoutOnly (.int 5), ?_⟩
  · exact ((timeout_above_zero_iff _).1 _ (construct_timeout (.inl habove))).mpr id
  · intro hes
    have h : Environment.load settings [("ELASTICSEARCH_REQUEST_TIMEOUT", "-NaN ")] =
      .ok (timeoutOnly (.float notANumber)) := load_timeout (.inr hnumber) rfl
    exact ((timeout_above_zero_iff _).2.1 _ h).mp hes "-NaN " rfl rfl
  · have hsource :
        unlimited.load settings true [] = (.ok (timeoutOnly (.float notANumber)), []) := by
      simp only [unlimited, SettingsLoader.given, construct_timeout (.inr hnumber)]
      rfl
    have h : SettingsFactory.create settings true (some [unlimited])
        [("request_timeout", .int 5)] [] = (.ok (timeoutOnly (.int 5)), []) := by
      rw [SettingsFactory.create, Option.getD_some, SettingsFactory.gather, hsource]
      rfl
    refine ⟨h, ((timeout_above_zero_iff _).2.2 true _ _ _ [] (by decide) h).mpr ?_⟩
    intro v hv hno
    obtain rfl : Value.int 5 = v := Option.some.inj hv
    exact hno

/-- The name of what is no number passes for a timeout. -/
theorem nan_passes_for_timeout :
    Environment.load settings [("ELASTICSEARCH_REQUEST_TIMEOUT", "nan")] =
      .ok (timeoutOnly (.float notANumber)) ∧
      ¬ 0.0 < notANumber ∧ ¬ TimeoutAboveZero (timeoutOnly (.float notANumber)) := by
  have h : Environment.load settings [("ELASTICSEARCH_REQUEST_TIMEOUT", "nan")] =
      .ok (timeoutOnly (.float notANumber)) := load_timeout (.inr rfl) rfl
  exact ⟨h, not_zero_lt_of_isNaN rfl, fun hes =>
    (timeoutAboveZero_iff_of_load h).mp hes "nan" rfl rfl⟩

end Connection
end SearchSource
