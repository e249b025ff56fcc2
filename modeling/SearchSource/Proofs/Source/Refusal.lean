import SearchSource.Proofs.Query.Acceptance
import SearchSource.Proofs.Query.Assembly
import SearchSource.Proofs.Query.Sorting
import SearchSource.Proofs.Query.Unsupported
import SearchSource.Proofs.Source.Execution

/-! Requests that are not assembled: which they are, what is reported of them, and that nothing else
happens. Main statement: `refused_without_effect`. -/
namespace SearchSource

/-- A report of the class of queries that do not compile, or of a class below it. -/
def Failure.ReportsCompilation (f : Failure) : Prop :=
  ∃ kind code message detail cause,
    f = .report kind code message detail cause ∧ .queryCompilation ∈ kind :: kind.ancestors

theorem CompileError.reportsCompilation {e : CompileError} (h : ∀ fault, e ≠ .unfit fault) :
    e.toFailure.ReportsCompilation := by
  cases e with
  | unsupportedOperator w => exact ⟨_, _, _, _, _, rfl, by simp [ReportKind.ancestors]⟩
  | unsupportedFunction w => exact ⟨_, _, _, _, _, rfl, by simp [ReportKind.ancestors]⟩
  | notOneField f => exact ⟨_, _, _, _, _, rfl, by simp [ReportKind.ancestors]⟩
  | limitNotANumber f limit => exact ⟨_, _, _, _, _, rfl, by simp [ReportKind.ancestors]⟩
  | metricWithChildren f => exact ⟨_, _, _, _, _, rfl, by simp [ReportKind.ancestors]⟩
  | nameInUse f name => exact ⟨_, _, _, _, _, rfl, by simp [ReportKind.ancestors]⟩
  | unfit fault => exact absurd rfl (h fault)

namespace Aggregation

variable {reserved : List String} {specs : List AggregateSpec}

theorem compile_iff_wellFormed
    (ht : ∀ spec : AggregateSpec, spec.Within specs → spec.limit.isLimit) :
    (∃ forest, compile reserved specs = .ok forest) ↔ WellFormed reserved specs := by
  -- for all reserved names, as children are compiled under the keys of a bucket
  induction specs using AggregateSpec.forest_induction generalizing reserved with
  | step specs ih =>
    have accepts (spec : AggregateSpec) (hm : spec ∈ specs) :
        (∃ a, compileOne spec = .ok a) ↔ Fits spec ∧ WellFormed bucketKeys spec.children :=
      compileOne_accepts (ht spec (.here hm))
        (ih spec hm fun inner hinner => ht inner (.inside hm hinner))
    rw [compile_accepts]
    constructor
    · rintro ⟨hnames, heach⟩
      exact .intro hnames (fun spec hm => ((accepts spec hm).mp (heach spec hm)).1)
        fun spec hm => ((accepts spec hm).mp (heach spec hm)).2
    · rintro ⟨hnames, heach, hchildren⟩
      exact ⟨hnames, fun spec hm => (accepts spec hm).mpr ⟨heach spec hm, hchildren spec hm⟩⟩

/-- An aggregate is reported for what it is, or for what is inside it. -/
theorem compileOne_ne_unfit {spec : AggregateSpec} (ht : spec.limit.isLimit)
    (inside : ∀ fault, compile bucketKeys spec.children ≠ .error (.unfit fault)) (fault : Fault) :
    compileOne spec ≠ .error (.unfit fault) := by
  intro h
  cases known : functionOf? spec.function with
  | none =>
    rw [compileOne_of_unknown known] at h
    cases h
  | some f =>
    by_cases hlength : spec.fields.length = 1
    · obtain ⟨field, one⟩ := List.length_eq_one_iff.mp hlength
      by_cases hb : f.isBucketing
      · rw [compileOne_of_buckets known one hb, Except.bind_eq_error] at h
        rcases h with h | ⟨size, -, h⟩
        · by_cases hreadable : spec.limit.ReadableLimit
          · obtain ⟨size, hsize⟩ := bucketSize_of_readable f hreadable
            rw [hsize] at h
            cases h
          · rw [bucketSize_of_unreadable f ht hreadable] at h
            cases h
        · exact inside fault (Except.bind_pure_eq_error.mp h)
      · rw [compileOne_of_metric known one hb] at h
        split at h <;> cases h
    · rw [compileOne_of_fields known hlength] at h
      cases h

theorem compile_ne_unfit (ht : ∀ spec : AggregateSpec, spec.Within specs → spec.limit.isLimit)
    (fault : Fault) :
    compile reserved specs ≠ .error (.unfit fault) := by
  induction specs using AggregateSpec.forest_induction generalizing reserved fault with
  | step specs ih =>
    rw [ne_eq, compile_eq_error, names_eq_error, compileEach_eq_error]
    rintro (⟨_, _, _, -, -, h⟩ | ⟨-, before, spec, after, rfl, -, h⟩)
    · cases h
    · have hm : spec ∈ before ++ spec :: after := List.mem_append_right before List.mem_cons_self
      have inside (fault : Fault) : compile bucketKeys spec.children ≠ .error (.unfit fault) :=
        ih spec hm (fun inner hinner => ht inner (.inside hm hinner)) fault
      exact compileOne_ne_unfit (ht spec (.here hm)) inside fault h

end Aggregation

/-- A request with an integer for its page, if it has one, with limits of the right types in its
aggregates, and with texts for the names to sort by. Operators and functions may be any values. -/
structure SearchRequest.WellTyped (r : SearchRequest) : Prop where
  page : r.page = .null ∨ (∃ b, r.page = .bool b) ∨ ∃ n, r.page = .int n
  limits : ∀ spec : AggregateSpec, spec.Within r.aggregates → spec.limit.isLimit
  sorting : ∀ m, r.options.sortMap = some m → ∀ e ∈ m, ∃ s, e.2.asText? = some s

namespace Assembly

theorem pageStart_total {page : Value}
    (h : page = .null ∨ (∃ b, page = .bool b) ∨ ∃ n, page = .int n) (hholds : page.holds)
    (size : Int) : ∃ start, pageStart page size = .ok start := by
  rcases h with rfl | ⟨b, rfl⟩ | ⟨n, rfl⟩
  · cases hholds
  · exact ⟨_, rfl⟩
  · exact ⟨_, rfl⟩

theorem sortCriterion_total {sortMap : Entries Value} (h : ∀ e ∈ sortMap, ∃ s, e.2.asText? = some s)
    (c : OrderCriterion) : ∃ v, sortCriterion sortMap c = .ok v := by
  have hkey : ∃ s, (sortKey sortMap c.path).asText? = some s := by
    unfold sortKey
    cases hm : sortMap.lookup c.path with
    | none => exact ⟨c.path, rfl⟩
    | some mapped =>
      dsimp only [Option.getD_some]
      split
      · exact h _ (Entries.mem_of_lookup hm)
      · exact ⟨c.path, rfl⟩
  obtain ⟨s, hs⟩ := hkey
  exact ⟨_, single_of_asText? hs c.direction⟩

section Typed

variable {r : SearchRequest} (typed : r.WellTyped)

include typed

theorem startOf_total : ∃ start, startOf r = .ok start := by
  unfold startOf
  split
  · next hholds =>
    obtain ⟨start, hstart⟩ := pageStart_total typed.page hholds (pageSize r.limit)
    rw [hstart]
    exact ⟨_, rfl⟩
  · exact ⟨_, rfl⟩

theorem orderOf_total : ∃ order, orderOf r = .ok order := by
  have hnames : ∀ e ∈ orEmpty r.options.sortMap, ∃ s, e.2.asText? = some s := by
    cases hm : r.options.sortMap with
    | none => simp [orEmpty]
    | some m => exact typed.sorting m hm
  have heach : ∀ c ∈ r.order, ∃ v, sortCriterion (orEmpty r.options.sortMap) c = .ok v :=
    fun c _ => sortCriterion_total hnames c
  unfold orderOf sort
  split
  · exact ⟨_, rfl⟩
  · obtain ⟨criteria, hcriteria⟩ := exists_mapM_eq_ok heach
    rw [hcriteria]
    exact ⟨_, rfl⟩

/-- Nothing but the filter and the aggregates can be reported, and the filter goes first. -/
theorem assemble_eq_error {e : CompileError} :
    assemble r = .error e ↔ Filter.compile r.filter = .error e ∨
      (∃ q, Filter.compile r.filter = .ok q) ∧ Aggregation.compile [] r.aggregates = .error e := by
  obtain ⟨start, hstart⟩ := startOf_total typed
  obtain ⟨order, horder⟩ := orderOf_total typed
  rw [assemble_eq, hstart, horder]
  cases Filter.compile r.filter <;> cases Aggregation.compile [] r.aggregates <;>
    simp [bind, Except.bind, pure, Except.pure]

theorem assemble_fails_iff :
    (∃ e, assemble r = .error e) ↔
      (∃ g ∈ r.filter, ∃ c ∈ g, ¬ c.Supported) ∨ ¬ Aggregation.WellFormed [] r.aggregates := by
  rw [← Filter.compile_fails_iff, ← Aggregation.compile_iff_wellFormed typed.limits]
  simp only [assemble_eq_error typed]
  cases Filter.compile r.filter <;> cases Aggregation.compile [] r.aggregates <;> simp

theorem reportsCompilation_of_assemble {e : CompileError} (h : assemble r = .error e) :
    e.toFailure.ReportsCompilation := by
  refine CompileError.reportsCompilation fun fault hfault => ?_
  subst hfault
  rcases (assemble_eq_error typed).mp h with h | ⟨-, h⟩
  · obtain ⟨_, _, _, -, -, -, h⟩ := Filter.compile_eq_error.mp h
    cases h
  · exact Aggregation.compile_ne_unfit typed.limits fault h

end Typed

end Assembly

namespace Source
open Assembly (assemble)

/-- A request is turned down exactly for an operator that is not supported or for aggregates that
are not well formed, where a report on the filter takes precedence. To run the request reports the
same and changes nothing. -/
theorem refused_without_effect {r : SearchRequest} (typed : r.WellTyped) :
    ((∃ e, assemble r = .error e) ↔
      (∃ g ∈ r.filter, ∃ c ∈ g, ¬ c.Supported) ∨ ¬ Aggregation.WellFormed [] r.aggregates) ∧
      (∀ e, assemble r = .error e ↔ Filter.compile r.filter = .error e ∨
        (∃ q, Filter.compile r.filter = .ok q) ∧ Aggregation.compile [] r.aggregates = .error e) ∧
      ∀ e, assemble r = .error e → e.toFailure.ReportsCompilation ∧
        ∀ s : Source, s.execute r = (⟨.error (.own e.toFailure), r.explain⟩, s) := by
  refine ⟨Assembly.assemble_fails_iff typed, ?precedence, fun e h => ⟨?reported, ?unchanged⟩⟩
  case precedence => exact fun e => Assembly.assemble_eq_error typed
  case reported => exact Assembly.reportsCompilation_of_assemble typed h
  case unchanged => exact execute_of_error h

/-- A faulty filter and a faulty aggregate, in a request whose place for explanations is already in
use. -/
def deepestHarbour : SearchRequest where
  index := "towns"
  filter := [[⟨"depth", .text "greater", .int 5⟩], [⟨"name", .text "like", .text "har%"⟩]]
  search := none
  options := ⟨none, none, some [("name", .text "name.raw")]⟩
  ownQuery := none
  aggregates :=
    [⟨.text "max", ["depth"], none, .text "all", [⟨.text "count", ["country"], none, .null, []⟩]⟩]
  order := [⟨"name", .text "asc"⟩]
  limit := .text "unlimited"
  page := .bool true
  attributes := []
  explain := some [("elasticsearch", .text "earlier")]

theorem refused_without_effect_deepestHarbour :
    deepestHarbour.WellTyped ∧ Aggregation.compile [] deepestHarbour.aggregates =
      .error (.metricWithChildren .max) ∧
      assemble deepestHarbour = .error (.unsupportedOperator "like") ∧
      ∀ s : Source, s.execute deepestHarbour =
        (⟨.error (.own (CompileError.unsupportedOperator "like").toFailure),
          some [("elasticsearch", .text "earlier")]⟩,
          s) := by
  have typed : deepestHarbour.WellTyped := by
    constructor <;> simp [deepestHarbour, Value.isLimit, Value.asText?]
  obtain ⟨-, reports, refuses⟩ := refused_without_effect typed
  have hfilter : Filter.compile deepestHarbour.filter = .error (.unsupportedOperator "like") := rfl
  have hrefused := (reports _).mpr (.inl hfilter)
  exact ⟨typed, rfl, hrefused, (refuses _ hrefused).2⟩

end Source
end SearchSource
