import SearchSource.Proofs.Settings.Sources

/-! Which source decides a field. As an instance has all fields, the last source decides even those
that it says nothing about. Main statement: `create_as_asked_unless_lost`, which tells the fields
that have the value that was asked for from those that have not. -/
namespace SearchSource
namespace SettingsFactory

/-- The value asked for: an override, else what the last source says that says anything, else the
default. -/
def asked (sayings : List (SettingsField → Option Value)) (overrides : Entries Value)
    (f : SettingsField) :
    Option Value :=
  (overrides.lookup f.name).or ((sayings.reverse.findSome? (· f)).or f.default?)

/-- A value other than the default was asked for, it is not overridden, and the last source says
nothing. -/
def Lost (sayings : List (SettingsField → Option Value)) (overrides : Entries Value)
    (f : SettingsField) : Prop :=
  overrides.lookup f.name = none ∧ (∀ last ∈ sayings.getLast?, last f = none) ∧
    ∃ v, sayings.reverse.findSome? (· f) = some v ∧ f.default? ≠ some v

theorem Lost.ne_asked {sayings : List (SettingsField → Option Value)} {overrides : Entries Value}
    {f : SettingsField} (h : Lost sayings overrides f) :
    f.default? ≠ asked sayings overrides f := by
  obtain ⟨hov, -, v, hv, hne⟩ := h
  rw [asked, hov, hv]
  exact hne

/-- What is not lost is decided by the overrides, the last source and the default. -/
theorem asked_of_not_lost {sayings : List (SettingsField → Option Value)}
    {last : SettingsField → Option Value} {overrides : Entries Value} {f : SettingsField}
    (h : ¬ Lost (sayings ++ [last]) overrides f) :
    asked (sayings ++ [last]) overrides f =
      (overrides.lookup f.name).or ((last f).or f.default?) := by
  have hreverse : (sayings ++ [last]).reverse = last :: sayings.reverse := by simp
  unfold Lost at h
  unfold asked
  rw [hreverse, List.findSome?_cons] at h ⊢
  rw [List.getLast?_concat] at h
  cases hov : overrides.lookup f.name with
  | some v => rfl
  | none =>
    cases hlast : last f with
    | some v => rfl
    | none =>
      cases hearlier : sayings.reverse.findSome? (· f) with
      | none => rfl
      | some v =>
        have hdefault : f.default? = some v := by
          by_contra hne
          exact h ⟨hov, by simpa using hlast, v, by rw [hlast]; exact hearlier, hne⟩
        rw [hdefault]
        rfl

/-- Settings are made by the last source and the overrides alone; of the sources before it only what
they leave in the environment counts. So a field has the value that was asked for, as far as the
check keeps it, unless only an earlier source asked for it: then it has its default. -/
theorem create_as_asked_unless_lost {c : SettingsClass} (hc : c.WellFormed) {canReadFiles : Bool}
    {env : Environment} {loaders : List SettingsLoader}
    {sayings : List (SettingsField → Option Value)}
    (hsay : AllSay c canReadFiles env loaders sayings) {overrides : Entries Value}
    (hov : overrides.keys.Nodup) {es : Entries Value} {events : List LogEvent}
    (h : create c canReadFiles (some loaders) overrides env = (.ok es, events)) :
    (∀ ls l, loaders = ls ++ [l] →
      create c canReadFiles (some [l]) overrides (envAfter c canReadFiles env ls) =
        (.ok es, events)) ∧
    ∀ f ∈ c.fields,
      (¬ Lost sayings overrides f → ∀ v, asked sayings overrides f = some v → c.Keeps f.name v →
        es.lookup f.name = some v) ∧
      (Lost sayings overrides f → c.Leaves f.name →
        es.lookup f.name = f.default? ∧ es.lookup f.name ≠ asked sayings overrides f) := by
  rcases List.eq_nil_or_concat' loaders with rfl | ⟨ls, l, rfl⟩
  · have hmade : c.construct overrides = .ok es := by
      rw [create_eq_of_gather rfl, Entries.merge_of_keys_eq hov (.inl rfl), Prod.mk.injEq] at h
      exact finish_eq_ok.mp h.1
    refine ⟨fun ls l hnil => absurd hnil.symm (by simp), fun f hf => ⟨?_, ?_⟩⟩
    · cases hsay
      intro _ v hv hk
      exact SettingsClass.lookup_construct_of_keeps hc hmade hf hv hk
    · cases hsay
      rintro ⟨-, -, v, hv, -⟩
      cases hv
  · obtain ⟨before, last, inst, rfl, hsay, hl, hlast⟩ := hsay.of_concat
    have hgather := gather_concat hc hsay hlast (.inl rfl)
    obtain ⟨given, hgiven, hgives⟩ := hl.construct hc hlast
    rw [create_eq_of_gather hgather] at h
    have hmade := finish_eq_ok.mp (Prod.mk.inj h).1
    refine ⟨?_, fun f hf => ⟨?_, ?_⟩⟩
    · intro ls' l' heq
      obtain ⟨rfl, hl⟩ := List.append_inj' heq rfl
      cases hl
      rw [create_eq_of_gather (gather_single hc hlast), h]
    · intro hkept v hv hk
      rw [asked_of_not_lost hkept, ← hgives f hf] at hv
      refine SettingsClass.lookup_construct_of_keeps hc hmade hf ?_ hk
      rw [Entries.lookup_merge_of_nodup hov]
      cases ho : overrides.lookup f.name with
      | some w => simpa [ho] using hv
      | none =>
        rw [ho, Option.none_or] at hv
        rw [SettingsClass.lookup_construct_of_keeps hc hgiven hf hv hk]
        rfl
    · intro hlost hl
      have hdefault : es.lookup f.name = f.default? := by
        obtain ⟨ho, hsilent, -⟩ := hlost
        rw [List.getLast?_concat] at hsilent
        rw [SettingsClass.lookup_construct hc hmade hf hl, Entries.lookup_merge_of_nodup hov, ho,
          SettingsClass.lookup_construct hc hgiven hf hl, hgives f hf, hsilent _ rfl]
        simp only [Option.none_or, Option.or_self]
      exact ⟨hdefault, hdefault ▸ hlost.ne_asked⟩

def optionalText (name : String) : SettingsField := ⟨name, .written "str | None", some .null⟩

/-- A source for the key, and one for a user with a password. -/
def keyThenUser : List SettingsLoader :=
  [.given "KeyLoader" [("api_key", .text "k")],
    .given "UserLoader" [("username", .text "elastic"), ("password", .text "changeme")]]

/-- What the two say. -/
def keyThenUserSay : List (SettingsField → Option Value) :=
  [fun f => List.lookup f.name [("api_key", .text "k")],
    fun f => List.lookup f.name [("username", .text "elastic"), ("password", .text "changeme")]]

theorem allSay_keyThenUser : AllSay Connection.settings true [] keyThenUser keyThenUserSay :=
  .cons (.given _ _) rfl (.cons (.given _ _) rfl (.nil _))

theorem create_as_asked_unless_lost_keyThenUser :
    ∃ es, create Connection.settings true (some keyThenUser) [("password", .text "changed")] [] =
        (.ok es, []) ∧
      es.lookup "username" = some (.text "elastic") ∧
      es.lookup "password" = some (.text "changed") ∧
      es.lookup "api_key" = some .null := by
  obtain ⟨es, h⟩ :
      ∃ es, create Connection.settings true (some keyThenUser) [("password", .text "changed")] [] =
        (.ok es, []) := ⟨_, rfl⟩
  obtain ⟨-, hfields⟩ :=
    create_as_asked_unless_lost Connection.wellFormed_settings allSay_keyThenUser (by decide) h
  have hkeeps (name : String) (hne : name ≠ "node") (v : Value) :
      Connection.settings.Keeps name v :=
    (Connection.leaves_settings hne).keeps v
  refine ⟨es, h, ?_, ?_, ?_⟩
  · refine (hfields (optionalText "username") (by simp [optionalText, Connection.settings])).1
      ?_ _ rfl (hkeeps _ (by decide) _)
    intro hlost
    cases hlost.2.1 _ rfl
  · refine (hfields (optionalText "password") (by simp [optionalText, Connection.settings])).1
      ?_ _ rfl (hkeeps _ (by decide) _)
    intro hlost
    cases hlost.1
  · have hlost : Lost keyThenUserSay [("password", .text "changed")] (optionalText "api_key") := by
      refine ⟨rfl, ?_, _, rfl, by simp [optionalText]⟩
      rintro _ ⟨⟩
      rfl
    exact ((hfields (optionalText "api_key") (by simp [optionalText, Connection.settings])).2 hlost
      (Connection.leaves_settings (by decide))).1

/-- The second source says nothing about the key that the first one gives, and the key is lost. -/
theorem keyThenUser_loses_key :
    AllSay Connection.settings true [] keyThenUser keyThenUserSay ∧
      ∃ es, create Connection.settings true (some keyThenUser) [] [] = (.ok es, []) ∧
        asked keyThenUserSay [] (optionalText "api_key") = some (.text "k") ∧
        es.lookup "api_key" = some .null :=
  ⟨allSay_keyThenUser, _, rfl, rfl, rfl⟩

end SettingsFactory
end SearchSource
