import SearchSource.Proofs.Number.Spelling
import SearchSource.Proofs.Query.Acceptance
import SearchSource.Proofs.Settings.Annotation
import SearchSource.Settings.Environment

/-! Integers in the two places where a text is read as one: the limit of an aggregate and a setting.
Main statement: `integers_read_alike`, both accept the same texts and read the same number off
each. -/
namespace SearchSource
open Number Text Annotation

theorem Annotation.isWord_int : IsWord "int" := by
  refine ⟨⟨?_, ?_⟩, by decide⟩
  · rintro c ⟨⟩
    rfl
  · rintro c ⟨⟩
    rfl

/-- The aggregate groups documents by one field, and its limit is the text. -/
structure AggregateSpec.GroupsBy (spec : AggregateSpec) (f : AggregateFunction) (field t : String) :
    Prop where
  function : Aggregation.functionOf? spec.function = some f
  buckets : f.isBucketing
  fields : spec.fields = [field]
  limit : spec.limit.asText? = some t

theorem Aggregation.compileOne_of_limit {spec : AggregateSpec} {f : AggregateFunction}
    {field t : String} (h : spec.GroupsBy f field t) (ht : t ≠ "") :
    compileOne spec = do
      let n ← (integerOfText? t).elim (.error (.limitNotANumber f spec.limit)) .ok
      let inner ← compile bucketKeys spec.children
      return .buckets field (some n) inner := by
  rw [compileOne_of_buckets h.function h.fields h.buckets, bucketSize_of_text f h.limit, if_neg ht]
  cases integerOfText? t <;> rfl

theorem Environment.coerce_int {a : Annotation} (h : a.Offers "int") (variableName t : String) :
    coerce variableName t a =
      (integerOfText? t).elim (.error (.invalid variableName (.text t) "expected int")) fun n =>
        .ok (.int n) := by
  unfold coerce
  rw [typeName_of_offers isWord_int (by decide) h]
  dsimp only
  rw [if_neg (by decide), if_pos rfl]
  cases integerOfText? t <;> rfl

/-- A text that is not empty is accepted as a limit and as an integer setting exactly if it spells
an integer, and it is read as that integer. -/
theorem integers_read_alike {t field : String} {spec : AggregateSpec} {f : AggregateFunction}
    {a : Annotation} (variableName : String) (ht : t ≠ "") (hspec : spec.GroupsBy f field t)
    (ha : a.Offers "int") :
    (∀ n, Spells t.toList n →
      (∀ inner, Aggregation.compile Aggregation.bucketKeys spec.children = .ok inner →
        Aggregation.compileOne spec = .ok (.buckets field (some n) inner)) ∧
      Environment.coerce variableName t a = .ok (.int n)) ∧
    ((∀ n, ¬ Spells t.toList n) →
      (∃ e, Aggregation.compileOne spec = .error e ∧
        e.toFailure.className = "InvalidAggregationError") ∧
      ∃ e, Environment.coerce variableName t a = .error e ∧
        e.toFailure.className = "InvalidSettingValueError") ∧
    ∀ n : Int, (toString n.natAbs).length ≤ 4300 → t = toString n → Spells t.toList n := by
  refine ⟨fun n hn => ⟨fun inner hinner => ?_, ?_⟩, fun hno => ?_, fun n hn heq => ?_⟩
  · rw [Aggregation.compileOne_of_limit hspec ht, integerOfText?_eq_some_iff.mpr hn, hinner]
    rfl
  · rw [Environment.coerce_int ha, integerOfText?_eq_some_iff.mpr hn]
    rfl
  · have hnone : integerOfText? t = none :=
      Option.eq_none_iff_forall_ne_some.mpr fun n h => hno n (integerOfText?_eq_some_iff.mp h)
    refine ⟨⟨.limitNotANumber f spec.limit, ?_, rfl⟩,
      .invalid variableName (.text t) "expected int", ?_, rfl⟩
    · rw [Aggregation.compileOne_of_limit hspec ht, hnone]
      rfl
    · rw [Environment.coerce_int ha, hnone]
      rfl
  · have hlength : (toString n.natAbs).length = (Nat.toDigits 10 n.natAbs).length :=
      String.length_ofList
    have hshort : n.natAbs < 10 ^ digitLimit :=
      (Nat.length_toDigits_le_iff (by decide) (by decide)).mp (hlength ▸ hn)
    rw [heq]
    exact integerOfText?_eq_some_iff.mp (integerOfText?_toString hshort)

/-- At most ten towns, written in an unusual way. -/
def tenTowns : AggregateSpec := ⟨.text "values", ["town"], none, .text " +1_0\n", []⟩

theorem integers_read_alike_tenTowns :
    " +1_0\n" ≠ "" ∧ tenTowns.GroupsBy .values "town" " +1_0\n" ∧
      Offers "int" (.written "None| int |None") ∧
      Aggregation.compileOne tenTowns = .ok (.buckets "town" (some 10) []) ∧
      Environment.coerce "TOWNS" " +1_0\n" (.written "None| int |None") = .ok (.int 10) := by
  have ht : " +1_0\n" ≠ "" := by decide
  have hspec : tenTowns.GroupsBy .values "town" " +1_0\n" := ⟨rfl, rfl, rfl, rfl⟩
  have hspaced : List.Forall₂ Spaced ["None", "int", "None"] ["None", " int ", "None"] :=
    .cons (spaced_self _) (.cons (spaced_append "int").cons (.cons (spaced_self _) .nil))
  have hone : Alternatives "int" ["None", "int", "None"] := ⟨by simp, by simp [nothing]⟩
  have hoffers : Offers "int" (.written "None| int |None") := .written hone hspaced
  have hspells : Spells " +1_0\n".toList 10 := integerOfText?_eq_some_iff.mp rfl
  obtain ⟨hreads, -, -⟩ := integers_read_alike "TOWNS" ht hspec hoffers
  obtain ⟨hlimit, hsetting⟩ := hreads 10 hspells
  exact ⟨ht, hspec, hoffers, hlimit [] rfl, hsetting⟩

end SearchSource
