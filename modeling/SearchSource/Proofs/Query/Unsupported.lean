import SearchSource.Proofs.Query.Shape
import SearchSource.Proofs.Except

/-! Filters with operators that are not supported: which of them is reported. Main statement:
`compile_reports_first_unsupported`. -/
namespace SearchSource

def FilterOperator.words : List String := all.map word

theorem FilterOperator.isSome_ofWord? (w : String) : (ofWord? w).isSome ↔ w ∈ words := by
  simp [ofWord?, words]

theorem CompileError.written_of_text {v : Value} {s : String} (h : v.asText? = some s) :
    written v = s := by
  simp [written, h]

namespace Condition

/-- Whether a condition has the text `w` for an operator, and `w` is none of the words for
operators. -/
def Refused (c : Condition) (w : String) : Prop :=
  c.operator.asText? = some w ∧ w ∉ FilterOperator.words

theorem refused_iff {c : Condition} {w : String} (h : c.operator.asText? = some w) :
    c.Refused w ↔ ¬ c.Supported := by
  unfold Refused Supported operator? Filter.operatorOf?
  rw [h, Option.bind_some, FilterOperator.isSome_ofWord?]
  exact and_iff_right rfl

end Condition

namespace Filter

/-- The conditions of a group attribute by attribute, the attributes in order of first
appearance. -/
def regrouped (g : List Condition) : List Condition :=
  (attributes g).flatMap fun path => g.filter (·.path = path)

/-- The conditions of a filter in the order in which they are looked at. -/
def inOrder (e : FilterExpression) : List Condition := e.flatMap regrouped

theorem mem_regrouped {g : List Condition} {c : Condition} : c ∈ regrouped g ↔ c ∈ g := by
  simp only [regrouped, List.mem_flatMap, List.mem_filter, decide_eq_true_iff]
  constructor
  · rintro ⟨_, -, hc, -⟩
    exact hc
  · intro hc
    exact ⟨c.path, mem_attributes.mpr ⟨c, hc, rfl⟩, hc, rfl⟩

theorem mem_inOrder {e : FilterExpression} {c : Condition} : c ∈ inOrder e ↔ ∃ g ∈ e, c ∈ g := by
  simp only [inOrder, List.mem_flatMap, mem_regrouped]

/-- What the first condition without a supported operator is reported as. -/
def refusal? (cs : List Condition) : Option CompileError :=
  (cs.find? (¬ ·.Supported)).map fun c => .unsupportedOperator (CompileError.written c.operator)

theorem refusal?_append (cs ds : List Condition) :
    refusal? (cs ++ ds) = (refusal? cs).or (refusal? ds) := by
  unfold refusal?
  rw [List.find?_append]
  cases cs.find? (¬ ·.Supported) <;> rfl

theorem refusal?_eq_some {cs : List Condition} {err : CompileError} :
    refusal? cs = some err ↔ ∃ before c after, cs = before ++ c :: after ∧
      (∀ b ∈ before, b.Supported) ∧
      ¬ c.Supported ∧ err = .unsupportedOperator (CompileError.written c.operator) := by
  simp only [refusal?, Option.map_eq_some_iff, List.find?_eq_some_iff_append, decide_eq_true_iff,
    Bool.not_eq_true', decide_eq_false_iff_not, not_not]
  constructor
  · rintro ⟨c, ⟨hc, before, after, hcs, hbefore⟩, rfl⟩
    exact ⟨before, c, after, hcs, hbefore, hc, rfl⟩
  · rintro ⟨before, c, after, hcs, hbefore, hc, rfl⟩
    exact ⟨c, ⟨hc, before, after, hcs, hbefore⟩, rfl⟩

/-! ### What each stage fails with -/

theorem error?_attributeClauses (path : String) (clauses : List Clause) (cs : List Condition) :
    Except.error? (attributeClauses path clauses cs) = refusal? cs := by
  induction cs generalizing clauses with
  | nil => rfl
  | cons c cs ih =>
    unfold attributeClauses
    cases ho : operatorOf? c.operator with
    | none =>
      have hc : ¬ c.Supported := by simp [Condition.Supported, Condition.operator?, ho]
      simp [Except.error?, refusal?, hc]
    | some o =>
      have hc : c.Supported := by simp [Condition.Supported, Condition.operator?, ho]
      simp [ih, refusal?, hc]

theorem error?_groupClauses (groups : Entries (List Condition)) :
    Except.error? (groupClauses groups) = refusal? (groups.flatMap (·.2)) := by
  induction groups with
  | nil => rfl
  | cons e rest ih =>
    unfold groupClauses
    rw [Except.error?_bind fun _ => Except.error?_bind_pure, error?_attributeClauses, ih,
      List.flatMap_cons, refusal?_append]

theorem error?_compileGroup (g : List Condition) :
    Except.error? (compileGroup g) = refusal? (regrouped g) := by
  unfold compileGroup regrouped
  rw [Except.error?_bind_pure, error?_groupClauses, byAttribute_eq, List.flatMap_map, attributes]

theorem error?_compileGroups (e : FilterExpression) :
    Except.error? (compileGroups e) = refusal? (inOrder e) := by
  induction e with
  | nil => rfl
  | cons g gs ih =>
    unfold compileGroups inOrder
    rw [Except.error?_bind fun _ => Except.error?_bind_pure, error?_compileGroup, ih,
      List.flatMap_cons, refusal?_append]
    rfl

theorem error?_compile (e : FilterExpression) :
    Except.error? (compile e) = refusal? (inOrder e) := by
  unfold compile
  rw [Except.error?_bind_pure, error?_compileGroups]

/-- A filter fails to compile exactly if a condition in it has an operator that is not supported. -/
theorem compile_fails_iff {e : FilterExpression} :
    (∃ err, compile e = .error err) ↔ ∃ g ∈ e, ∃ c ∈ g, ¬ c.Supported := by
  have hfails : (∃ err, compile e = .error err) ↔ (refusal? (inOrder e)).isSome := by
    simp only [← error?_compile, Option.isSome_iff_exists, Except.error?_eq_some]
  rw [hfails, refusal?, Option.isSome_map, List.find?_isSome]
  simp only [mem_inOrder, decide_eq_true_iff]
  constructor
  · rintro ⟨c, ⟨g, hg, hc⟩, hbad⟩
    exact ⟨g, hg, c, hc, hbad⟩
  · rintro ⟨g, hg, c, hc, hbad⟩
    exact ⟨c, ⟨g, hg, hc⟩, hbad⟩

theorem compile_eq_error {e : FilterExpression} {err : CompileError} :
    compile e = .error err ↔ ∃ before c after, inOrder e = before ++ c :: after ∧
      (∀ b ∈ before, b.Supported) ∧
      ¬ c.Supported ∧ err = .unsupportedOperator (CompileError.written c.operator) := by
  rw [← Except.error?_eq_some, error?_compile, refusal?_eq_some]

/-- A filter fails to compile exactly if some operator is not supported. Of these operators the
first one is reported when groups, the attributes of a group and the conditions of an attribute are
taken in order. -/
theorem compile_reports_first_unsupported {e : FilterExpression}
    (texts : ∀ g ∈ e, ∀ c ∈ g, ∃ w, c.operator.asText? = some w) :
    ((∃ err, compile e = .error err) ↔ ∃ g ∈ e, ∃ c ∈ g, ∃ w, c.Refused w) ∧
      ∀ err, compile e = .error err ↔ ∃ before c after w, inOrder e = before ++ c :: after ∧
        (∀ b ∈ before, b.Supported) ∧ c.Refused w ∧ err = .unsupportedOperator w := by
  constructor
  · rw [compile_fails_iff]
    constructor
    · rintro ⟨g, hg, c, hc, hbad⟩
      obtain ⟨w, hw⟩ := texts g hg c hc
      exact ⟨g, hg, c, hc, w, (Condition.refused_iff hw).mpr hbad⟩
    · rintro ⟨g, hg, c, hc, w, hbad⟩
      exact ⟨g, hg, c, hc, (Condition.refused_iff hbad.1).mp hbad⟩
  · intro err
    rw [compile_eq_error]
    constructor
    · rintro ⟨before, c, after, hsplit, hbefore, hbad, rfl⟩
      obtain ⟨g, hg, hc⟩ :=
        mem_inOrder.mp (hsplit ▸ List.mem_append_right before List.mem_cons_self)
      obtain ⟨w, hw⟩ := texts g hg c hc
      refine ⟨before, c, after, w, hsplit, hbefore, (Condition.refused_iff hw).mpr hbad, ?_⟩
      rw [CompileError.written_of_text hw]
    · rintro ⟨before, c, after, w, hsplit, hbefore, hbad, rfl⟩
      refine ⟨before, c, after, hsplit, hbefore, (Condition.refused_iff hbad.1).mp hbad, ?_⟩
      rw [CompileError.written_of_text hbad.1]

/-- Two operators that are not supported. The one that comes second is that of the attribute looked
at first. -/
def deepHarbours : FilterExpression :=
  [[⟨"depth", .text "greater", .int 5⟩, ⟨"name", .text "like", .text "har%"⟩,
    ⟨"depth", .text "between", .list [.int 5, .int 9]⟩]]

theorem compile_reports_deepHarbours :
    (∀ g ∈ deepHarbours, ∀ c ∈ g, ∃ w, c.operator.asText? = some w) ∧
      (∃ err, compile deepHarbours = .error err) ∧
        compile deepHarbours = .error (.unsupportedOperator "between") := by
  have texts : ∀ g ∈ deepHarbours, ∀ c ∈ g, ∃ w, c.operator.asText? = some w := by
    simp [deepHarbours, Value.asText?]
  obtain ⟨fails, reports⟩ := compile_reports_first_unsupported texts
  have like : (⟨"name", .text "like", .text "har%"⟩ : Condition).Refused "like" := ⟨rfl, by decide⟩
  have between :
      (⟨"depth", .text "between", .list [.int 5, .int 9]⟩ : Condition).Refused "between" :=
    ⟨rfl, by decide⟩
  refine ⟨texts, fails.mpr ⟨_, List.mem_singleton_self _, _, by simp, "like", like⟩,
    (reports _).mpr ?_⟩
  refine ⟨[⟨"depth", .text "greater", .int 5⟩], _, [⟨"name", .text "like", .text "har%"⟩],
    "between", ?_, ?_, between, rfl⟩
  · simp [deepHarbours, inOrder, regrouped, attributes, List.eraseDups_cons]
  · simp [Condition.Supported, Condition.operator?, operatorOf?, Value.asText?,
      FilterOperator.isSome_ofWord?, FilterOperator.words, FilterOperator.all, FilterOperator.word]

end Filter
end SearchSource
