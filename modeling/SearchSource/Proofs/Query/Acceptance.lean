import SearchSource.Proofs.Query.Aggregation
import SearchSource.Proofs.Query.Limit

/-! Which forests of aggregates compile, and which fault of the others is reported. Main statement:
`compile_accepts_or_reports`. -/
namespace SearchSource
namespace Aggregation

/-- Siblings have names that are pairwise distinct, and none is reserved. -/
structure NamesFree (reserved : List String) (specs : List AggregateSpec) : Prop where
  distinct : (resolved 0 specs).Nodup
  unreserved : ∀ n ∈ resolved 0 specs, n ∉ reserved

/-- What an aggregate needs apart from its name and what is inside it: one of the functions, one
field, and a limit that can be read, or no children if the function computes a metric. -/
def Fits (spec : AggregateSpec) : Prop :=
  ∃ f, functionOf? spec.function = some f ∧ spec.fields.length = 1 ∧
    if f.isBucketing then spec.limit.ReadableLimit else spec.children = []

/-- Every list of siblings has free names, where the keys of a bucket are reserved below the top,
and aggregates that fit. -/
inductive WellFormed : List String → List AggregateSpec → Prop
  | intro {reserved : List String} {specs : List AggregateSpec} (names : NamesFree reserved specs)
    (each : ∀ spec ∈ specs, Fits spec)
    (children : ∀ spec ∈ specs, WellFormed bucketKeys spec.children) :
    WellFormed reserved specs

mutual

/-- The first fault of siblings: the first name that is reserved or taken by an earlier sibling, and
if all names are free, the fault of the first aggregate that has one. -/
inductive FirstFault : List String → List AggregateSpec → CompileError → Prop
  | name {reserved : List String} {before after : List AggregateSpec} {spec : AggregateSpec}
    (free : NamesFree reserved before)
    (taken : nameAt before.length spec ∈ reserved ∨ nameAt before.length spec ∈ resolved 0 before) :
    FirstFault reserved (before ++ spec :: after)
      (.nameInUse spec.function (nameAt before.length spec))
  | sibling {reserved : List String} {before after : List AggregateSpec} {spec : AggregateSpec}
    {e : CompileError}
    (free : NamesFree reserved (before ++ spec :: after))
    (sound : ∀ s ∈ before, Fits s ∧ WellFormed bucketKeys s.children) (fault : SpecFault spec e) :
    FirstFault reserved (before ++ spec :: after) e

/-- The first fault of one aggregate: its function is looked at first, then its fields, its limit
and what is inside it. -/
inductive SpecFault : AggregateSpec → CompileError → Prop
  | function {spec : AggregateSpec} (unknown : functionOf? spec.function = none) :
    SpecFault spec (.unsupportedFunction (CompileError.written spec.function))
  | fields {spec : AggregateSpec} {f} (known : functionOf? spec.function = some f)
    (notOne : spec.fields.length ≠ 1) : SpecFault spec (.notOneField f)
  | limit {spec : AggregateSpec} {f} (known : functionOf? spec.function = some f)
    (one : spec.fields.length = 1) (buckets : f.isBucketing)
    (unreadable : ¬ spec.limit.ReadableLimit) :
    SpecFault spec (.limitNotANumber f spec.limit)
  | children {spec : AggregateSpec} {f e} (known : functionOf? spec.function = some f)
    (one : spec.fields.length = 1) (buckets : f.isBucketing)
    (readable : spec.limit.ReadableLimit) (fault : FirstFault bucketKeys spec.children e) :
    SpecFault spec e
  | metric {spec : AggregateSpec} {f} (known : functionOf? spec.function = some f)
    (one : spec.fields.length = 1) (metric : ¬ f.isBucketing) (parent : spec.children ≠ []) :
    SpecFault spec (.metricWithChildren f)

end

theorem wellFormed_nil (reserved : List String) : WellFormed reserved [] :=
  .intro ⟨List.nodup_nil, by simp⟩ (by simp) (by simp)

theorem names_eq_ok_iff {reserved : List String} {specs : List AggregateSpec} :
    (∃ given, names reserved specs = .ok given) ↔ NamesFree reserved specs := by
  simp only [names_eq_ok]
  constructor
  · rintro ⟨_, rfl, distinct, unreserved⟩
    exact ⟨distinct, unreserved⟩
  · exact fun h => ⟨_, rfl, h.distinct, h.unreserved⟩

/-- A list with a first element is split at it or after it. -/
theorem exists_split_cons {α : Type} {P : List α → α → Prop} {a : α} {l : List α} :
    (∃ before x after, a :: l = before ++ x :: after ∧ P before x) ↔
      P [] a ∨ ∃ before x after, l = before ++ x :: after ∧ P (a :: before) x := by
  constructor
  · rintro ⟨before, x, after, hsplit, hp⟩
    cases before with
    | nil =>
      obtain ⟨rfl, rfl⟩ := List.cons.inj hsplit
      exact .inl hp
    | cons b before =>
      obtain ⟨rfl, hrest⟩ := List.cons.inj hsplit
      exact .inr ⟨before, x, after, hrest, hp⟩
  · rintro (hp | ⟨before, x, after, hsplit, hp⟩)
    · exact ⟨[], a, l, rfl, hp⟩
    · exact ⟨a :: before, x, after, by rw [hsplit, List.cons_append], hp⟩

/-- The names of some siblings are free, and the next one is not. -/
structure Clash (position : Nat) (taken : List String) (before : List AggregateSpec)
    (spec : AggregateSpec) : Prop where
  distinct : (resolved position before).Nodup
  free : ∀ n ∈ resolved position before, n ∉ taken
  clash : nameAt (position + before.length) spec ∈ taken ∨
    nameAt (position + before.length) spec ∈ resolved position before

theorem clash_iff {reserved : List String} {before : List AggregateSpec} {spec : AggregateSpec} :
    Clash 0 reserved before spec ↔ NamesFree reserved before ∧
      (nameAt before.length spec ∈ reserved ∨ nameAt before.length spec ∈ resolved 0 before) := by
  constructor
  · rintro ⟨distinct, free, clash⟩
    rw [Nat.zero_add] at clash
    exact ⟨⟨distinct, free⟩, clash⟩
  · rintro ⟨h, clash⟩
    rw [← Nat.zero_add before.length] at clash
    exact ⟨h.distinct, h.unreserved, clash⟩

theorem clash_nil {position : Nat} {taken : List String} {spec : AggregateSpec} :
    Clash position taken [] spec ↔ nameAt position spec ∈ taken := by
  constructor
  · intro h
    exact h.clash.resolve_right (by simp)
  · intro h
    exact ⟨List.nodup_nil, by simp, .inl h⟩

theorem clash_cons {position : Nat} {taken : List String} {s : AggregateSpec}
    {before : List AggregateSpec} {spec : AggregateSpec} : Clash position taken (s :: before) spec ↔
      nameAt position s ∉ taken ∧ Clash (position + 1)
        (nameAt position s :: taken) before spec := by
  constructor
  · rintro ⟨distinct, free, clash⟩
    rw [resolved_cons, List.nodup_cons] at distinct
    rw [resolved_cons, List.forall_mem_cons] at free
    rw [place_cons, resolved_cons, List.mem_cons] at clash
    refine ⟨free.1, distinct.2, ?_, ?_⟩
    · intro n hn hm
      rcases List.mem_cons.mp hm with rfl | hm
      · exact distinct.1 hn
      · exact free.2 n hn hm
    · rw [List.mem_cons]
      tauto
  · rintro ⟨hs, distinct, free, clash⟩
    have hnew : nameAt position s ∉ resolved (position + 1) before :=
      fun hm => free _ hm List.mem_cons_self
    rw [List.mem_cons] at clash
    refine ⟨?_, ?_, ?_⟩
    · rw [resolved_cons]
      exact List.nodup_cons.mpr ⟨hnew, distinct⟩
    · rw [resolved_cons, List.forall_mem_cons]
      exact ⟨hs, fun n hn hm => free n hn (List.mem_cons_of_mem _ hm)⟩
    · rw [place_cons, resolved_cons, List.mem_cons]
      tauto

/-- Names from a position on fail at the first that is taken, before or by an earlier sibling. -/
theorem namesFrom_eq_error {position : Nat} {taken : List String} {specs : List AggregateSpec}
    {e : CompileError} :
    namesFrom position taken specs = .error e ↔
      ∃ before spec after, specs = before ++ spec :: after ∧
        Clash position taken before spec ∧
        e = .nameInUse spec.function (nameAt (position + before.length) spec) := by
  induction specs generalizing position taken with
  | nil => simp [namesFrom]
  | cons s specs ih =>
    rw [namesFrom, exists_split_cons]
    simp only [clash_nil, clash_cons, place_cons]
    by_cases hs : nameAt position s ∈ taken
    · simp [hs, eq_comm]
    · rw [if_neg hs, Except.bind_pure_eq_error, ih]
      simp [hs]

theorem names_eq_error {reserved : List String} {specs : List AggregateSpec} {e : CompileError} :
    names reserved specs = .error e ↔ ∃ before spec after, specs = before ++ spec :: after ∧
      (NamesFree reserved before ∧
        (nameAt before.length spec ∈ reserved ∨ nameAt before.length spec ∈ resolved 0 before)) ∧
      e = .nameInUse spec.function (nameAt before.length spec) := by
  rw [names, namesFrom_eq_error]
  simp only [clash_iff, Nat.zero_add]

/-- Siblings are compiled from left to right up to the first that fails. -/
theorem compileEach_eq_error {specs : List AggregateSpec} {e : CompileError} :
    compileEach specs = .error e ↔ ∃ before spec after, specs = before ++ spec :: after ∧
      (∀ s ∈ before, ∃ a, compileOne s = .ok a) ∧ compileOne spec = .error e := by
  induction specs with
  | nil => simp [compileEach]
  | cons s specs ih =>
    rw [compileEach, Except.bind_eq_error, exists_split_cons]
    simp only [Except.bind_pure_eq_error, ih, List.forall_mem_cons]
    constructor
    · rintro (hs | ⟨here, hs, before, spec, after, hsplit, hbefore, hspec⟩)
      · exact .inl ⟨by simp, hs⟩
      · exact .inr ⟨before, spec, after, hsplit, ⟨⟨here, hs⟩, hbefore⟩, hspec⟩
    · rintro (⟨-, hs⟩ | ⟨before, spec, after, hsplit, ⟨⟨here, hs⟩, hbefore⟩, hspec⟩)
      · exact .inl hs
      · exact .inr ⟨here, hs, before, spec, after, hsplit, hbefore, hspec⟩

theorem compile_eq_error {reserved : List String} {specs : List AggregateSpec} {e : CompileError} :
    compile reserved specs = .error e ↔
      names reserved specs = .error e ∨ NamesFree reserved specs ∧
        compileEach specs = .error e := by
  rw [compile, Except.bind_eq_error, ← names_eq_ok_iff]
  simp only [Except.bind_pure_eq_error, ← exists_and_right]

section One

variable {spec : AggregateSpec}

theorem compileOne_of_unknown (h : functionOf? spec.function = none) :
    compileOne spec = .error (.unsupportedFunction (CompileError.written spec.function)) := by
  obtain ⟨function, fields, name, limit, children⟩ := spec
  rw [compileOne, h]

variable {f : AggregateFunction} (known : functionOf? spec.function = some f)

include known

theorem compileOne_of_fields (h : spec.fields.length ≠ 1) :
    compileOne spec = .error (.notOneField f) := by
  obtain ⟨function, fields, name, limit, children⟩ := spec
  rw [compileOne, known]
  match fields with
  | [] => rfl
  | [field] => exact absurd rfl h
  | _ :: _ :: _ => rfl

theorem compileOne_of_buckets {field : String} (one : spec.fields = [field])
    (buckets : f.isBucketing) :
    compileOne spec = do
      let size ← bucketSize f spec.limit
      let inner ← compile bucketKeys spec.children
      return .buckets field size inner := by
  obtain ⟨function, fields, name, limit, children⟩ := spec
  cases one
  rw [compileOne, known]
  simp only [buckets, if_true, compile, bind_assoc, pure_bind]

theorem compileOne_of_metric {field : String} (one : spec.fields = [field])
    (metric : ¬ f.isBucketing) :
    compileOne spec =
      if spec.children.isEmpty then .ok (.metric f field) else .error (.metricWithChildren f) := by
  obtain ⟨function, fields, name, limit, children⟩ := spec
  cases one
  rw [compileOne, known]
  simp only [metric]
  rfl

end One

section Inside

variable {spec : AggregateSpec} (ht : spec.limit.isLimit)

include ht

theorem compileOne_accepts
    (ih : (∃ inner, compile bucketKeys spec.children = .ok inner) ↔
      WellFormed bucketKeys spec.children) :
    (∃ a, compileOne spec = .ok a) ↔ Fits spec ∧ WellFormed bucketKeys spec.children := by
  constructor
  · rintro ⟨a, ha⟩
    obtain ⟨f, field, known, one, hrest⟩ := compileOne_eq_ok.mp ha
    have hlength : spec.fields.length = 1 := by rw [one, List.length_singleton]
    by_cases hb : f.isBucketing
    · rw [if_pos hb] at hrest
      obtain ⟨size, inner, hsize, hinner, -⟩ := hrest
      have hreadable : spec.limit.ReadableLimit := by
        by_contra unreadable
        rw [bucketSize_of_unreadable f ht unreadable] at hsize
        cases hsize
      exact ⟨⟨f, known, hlength, by rwa [if_pos hb]⟩, ih.mp ⟨inner, hinner⟩⟩
    · rw [if_neg hb] at hrest
      refine ⟨⟨f, known, hlength, ?_⟩, ?_⟩
      · rw [if_neg hb]
        exact hrest.1
      · rw [hrest.1]
        exact wellFormed_nil bucketKeys
  · rintro ⟨⟨f, known, hlength, hfits⟩, hinside⟩
    obtain ⟨field, one⟩ := List.length_eq_one_iff.mp hlength
    by_cases hb : f.isBucketing
    · rw [if_pos hb] at hfits
      obtain ⟨size, hsize⟩ := bucketSize_of_readable f hfits
      obtain ⟨inner, hinner⟩ := ih.mpr hinside
      refine ⟨.buckets field size inner, ?_⟩
      rw [compileOne_of_buckets known one hb, hsize, hinner]
      rfl
    · rw [if_neg hb] at hfits
      refine ⟨.metric f field, ?_⟩
      rw [compileOne_of_metric known one hb, hfits]
      rfl

theorem compileOne_reports
    (ih : ∀ e, compile bucketKeys spec.children = .error e ↔ FirstFault bucketKeys spec.children e)
    (e : CompileError) :
    compileOne spec = .error e ↔ SpecFault spec e := by
  constructor
  · intro h
    cases known : functionOf? spec.function with
    | none =>
      rw [compileOne_of_unknown known] at h
      cases h
      exact .function known
    | some f =>
      by_cases hlength : spec.fields.length = 1
      · obtain ⟨field, one⟩ := List.length_eq_one_iff.mp hlength
        by_cases hb : f.isBucketing
        · rw [compileOne_of_buckets known one hb, Except.bind_eq_error] at h
          by_cases hreadable : spec.limit.ReadableLimit
          · obtain ⟨size, hsize⟩ := bucketSize_of_readable f hreadable
            rw [hsize] at h
            rcases h with h | ⟨_, -, hinner⟩
            · cases h
            · rw [Except.bind_pure_eq_error] at hinner
              exact .children known hlength hb hreadable ((ih e).mp hinner)
          · rw [bucketSize_of_unreadable f ht hreadable] at h
            rcases h with h | ⟨_, h, -⟩
            · cases h
              exact .limit known hlength hb hreadable
            · cases h
        · rw [compileOne_of_metric known one hb] at h
          cases hc : spec.children with
          | nil =>
            rw [hc] at h
            cases h
          | cons child others =>
            rw [hc] at h
            cases h
            exact .metric known hlength hb (by simp [hc])
      · rw [compileOne_of_fields known hlength] at h
        cases h
        exact .fields known hlength
  · intro h
    cases h with
    | function unknown => exact compileOne_of_unknown unknown
    | fields known notOne => exact compileOne_of_fields known notOne
    | limit known one buckets unreadable =>
      obtain ⟨field, hfield⟩ := List.length_eq_one_iff.mp one
      rw [compileOne_of_buckets known hfield buckets, bucketSize_of_unreadable _ ht unreadable]
      rfl
    | @children _ f _ known one buckets readable fault =>
      obtain ⟨field, hfield⟩ := List.length_eq_one_iff.mp one
      obtain ⟨size, hsize⟩ := bucketSize_of_readable f readable
      rw [compileOne_of_buckets known hfield buckets, hsize, (ih e).mpr fault]
      rfl
    | metric known one metric parent =>
      obtain ⟨field, hfield⟩ := List.length_eq_one_iff.mp one
      rw [compileOne_of_metric known hfield metric, if_neg (by simpa using parent)]

end Inside

theorem compileEach_accepts {specs : List AggregateSpec} :
    (∃ each, compileEach specs = .ok each) ↔ ∀ spec ∈ specs, ∃ a, compileOne spec = .ok a := by
  induction specs with
  | nil => simp [compileEach]
  | cons spec specs ih =>
    simp only [compileEach, Except.bind_eq_ok, Except.pure_eq_ok, List.forall_mem_cons, ← ih]
    constructor
    · rintro ⟨_, here, hhere, others, hothers, rfl⟩
      exact ⟨⟨here, hhere⟩, others, hothers⟩
    · rintro ⟨⟨here, hhere⟩, others, hothers⟩
      exact ⟨_, here, hhere, others, hothers, rfl⟩

theorem compile_accepts {reserved : List String} {specs : List AggregateSpec} :
    (∃ forest, compile reserved specs = .ok forest) ↔
      NamesFree reserved specs ∧ ∀ spec ∈ specs, ∃ a, compileOne spec = .ok a := by
  simp only [compile, Except.bind_eq_ok, Except.pure_eq_ok, ← names_eq_ok_iff,
    ← compileEach_accepts]
  constructor
  · rintro ⟨_, given, hgiven, each, heach, rfl⟩
    exact ⟨⟨given, hgiven⟩, each, heach⟩
  · rintro ⟨⟨given, hgiven⟩, each, heach⟩
    exact ⟨_, given, hgiven, each, heach, rfl⟩

/-- A forest whose limits have the right types compiles exactly if it is well formed, and otherwise
its first fault is reported. -/
theorem compile_accepts_or_reports {reserved : List String} {specs : List AggregateSpec}
    (ht : ∀ spec : AggregateSpec, spec.Within specs → spec.limit.isLimit) :
    ((∃ forest, compile reserved specs = .ok forest) ↔ WellFormed reserved specs) ∧
      ∀ e, compile reserved specs = .error e ↔ FirstFault reserved specs e := by
  -- for all reserved names, as children may not use the keys of a bucket
  induction specs using AggregateSpec.forest_induction generalizing reserved with
  | step specs ih =>
    have inside (spec : AggregateSpec) (hm : spec ∈ specs) :
        ((∃ forest, compile bucketKeys spec.children = .ok forest) ↔
          WellFormed bucketKeys spec.children) ∧
          ∀ e, compile bucketKeys spec.children = .error e ↔
              FirstFault bucketKeys spec.children e :=
      ih spec hm fun inner hinner => ht inner (.inside hm hinner)
    have accepts (spec : AggregateSpec) (hm : spec ∈ specs) :
        (∃ a, compileOne spec = .ok a) ↔ Fits spec ∧ WellFormed bucketKeys spec.children :=
      compileOne_accepts (ht spec (.here hm)) (inside spec hm).1
    have reports (spec : AggregateSpec) (hm : spec ∈ specs) (e : CompileError) :
        compileOne spec = .error e ↔ SpecFault spec e :=
      compileOne_reports (ht spec (.here hm)) (inside spec hm).2 e
    refine ⟨?_, fun e => ?_⟩
    · rw [compile_accepts]
      constructor
      · rintro ⟨hnames, heach⟩
        exact .intro hnames (fun spec hm => ((accepts spec hm).mp (heach spec hm)).1)
          fun spec hm => ((accepts spec hm).mp (heach spec hm)).2
      · rintro ⟨hnames, heach, hchildren⟩
        exact ⟨hnames, fun spec hm => (accepts spec hm).mpr ⟨heach spec hm, hchildren spec hm⟩⟩
    · rw [compile_eq_error, names_eq_error, compileEach_eq_error]
      constructor
      · rintro (⟨before, spec, after, rfl, ⟨hfree, htaken⟩, rfl⟩ | ⟨hfree, before, spec, after,
          rfl, hbefore, hspec⟩)
        · exact .name hfree htaken
        · refine .sibling hfree (fun s hs => (accepts s ?_).mp (hbefore s hs))
            ((reports spec ?_ e).mp hspec)
          · exact List.mem_append_left _ hs
          · exact List.mem_append_right _ List.mem_cons_self
      · intro h
        cases h with
        | name free taken => exact .inl ⟨_, _, _, rfl, ⟨free, taken⟩, rfl⟩
        | sibling free sound fault =>
          refine .inr ⟨free, _, _, _, rfl, fun s hs =>
            (accepts s ?_).mpr (sound s hs), (reports _ ?_ e).mpr fault⟩
          · exact List.mem_append_left _ hs
          · exact List.mem_append_right _ List.mem_cons_self

/-- The limit of the towns cannot be read. That is reported though a later country is wrong as
well. -/
def townsByCountry : List AggregateSpec :=
  [⟨.text "count", ["country"], none, .text " 25 ",
    [⟨.text "values", ["town"], some "towns", .text "all", []⟩]⟩,
    ⟨.text "average", [], some "", .null, []⟩]

theorem compile_reports_townsByCountry :
    (∀ spec : AggregateSpec, spec.Within townsByCountry → spec.limit.isLimit) ∧
      ((∃ forest, compile [] townsByCountry = .ok forest) ↔ WellFormed [] townsByCountry) ∧
      FirstFault [] townsByCountry (.limitNotANumber .values (.text "all")) := by
  have ht : ∀ spec : AggregateSpec, spec.Within townsByCountry → spec.limit.isLimit := by
    simp [townsByCountry, Value.isLimit]
  have hc : compile [] townsByCountry = .error (.limitNotANumber .values (.text "all")) := rfl
  obtain ⟨accepts, reports⟩ := compile_accepts_or_reports ht
  exact ⟨ht, accepts, (reports _).mp hc⟩

end Aggregation
end SearchSource
