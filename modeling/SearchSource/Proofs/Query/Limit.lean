import SearchSource.Query.Aggregation

/-! How many buckets a limit asks for. Main statements: `bucketSize_of_readable` and
`bucketSize_of_unreadable`, which limits can be read, and `eq_asked_of_bucketSize`, what they are
read as. -/
namespace SearchSource
open SearchSource.Number

namespace Value

/-- Whether a value has a type that a limit may have: nothing, an integer (truth values are some) or
a text. -/
def isLimit : Value → Bool
  | null => true
  | bool _ => true
  | int _ => true
  | text _ => true
  | constant _ => true
  | _ => false

/-- Limits that can be read: nothing, an integer, and texts that are empty or spell an integer. -/
inductive ReadableLimit : Value → Prop
  | nothing : ReadableLimit .null
  | truth (b : Bool) : ReadableLimit (.bool b)
  | integer (n : Int) : ReadableLimit (.int n)
  | text {v : Value} {s : String} (given : v.asText? = some s)
    (reads : s = "" ∨ (integerOfText? s).isSome) :
    ReadableLimit v

/-- The number of buckets that a limit asks for. Nothing, an empty text and the number zero ask for
none, while a text that spells zero asks for zero. -/
def asked : Value → Option Int
  | null => none
  | int n => if n = 0 then none else some n
  | text s => if s = "" then none else integerOfText? s
  | v => if v.holds then v.toInt.toOption else none

theorem toInt_of_text {v : Value} {s : String} (h : v.asText? = some s) :
    v.toInt = (integerOfText? s).elim (.error .badContent) .ok := by
  cases v with
  | text t =>
    cases h
    rfl
  | constant c =>
    cases h
    rfl
  | _ => cases h

theorem holds_of_text {v : Value} {s : String} (h : v.asText? = some s) :
    v.holds = decide (s ≠ "") := by
  cases v with
  | text t =>
    cases h
    rfl
  | constant c =>
    cases h
    cases c with
    | operator o => cases o <;> rfl
    | function f => cases f <;> rfl
  | _ => cases h

theorem asked_eq (v : Value) : v.asked = if v.holds then v.toInt.toOption else none := by
  cases v with
  | int n => by_cases h : n = 0 <;> simp [asked, holds, toInt, Except.toOption, h]
  | text s =>
    cases hn : integerOfText? s <;> by_cases h : s = "" <;>
      simp [asked, holds, toInt, Except.toOption, hn, h]
  | _ => rfl

end Value

namespace Aggregation

section Size

variable (f : AggregateFunction) {limit : Value}

theorem bucketSize_int (n : Int) :
    bucketSize f (.int n) = .ok (if n = 0 then none else some n) := by
  by_cases h : n = 0 <;> simp [bucketSize, Value.holds, Value.toInt, h]

theorem bucketSize_of_text {s : String} (h : limit.asText? = some s) :
    bucketSize f limit =
      if s = "" then .ok none
      else (integerOfText? s).elim (.error (.limitNotANumber f limit)) fun n => .ok (some n) := by
  unfold bucketSize
  rw [Value.holds_of_text h, Value.toInt_of_text h]
  by_cases hs : s = ""
  · simp [hs]
  · cases integerOfText? s <;> simp [hs]

theorem bucketSize_of_readable (h : limit.ReadableLimit) :
    ∃ size, bucketSize f limit = .ok size := by
  cases h with
  | nothing => exact ⟨none, rfl⟩
  | truth b => cases b <;> exact ⟨_, rfl⟩
  | integer n => exact ⟨_, bucketSize_int f n⟩
  | text given reads =>
    rw [bucketSize_of_text f given]
    split
    · exact ⟨none, rfl⟩
    · next hs =>
      obtain ⟨n, hn⟩ := Option.isSome_iff_exists.mp (reads.resolve_left hs)
      exact ⟨some n, by rw [hn]; rfl⟩

/-- A limit of a right type that cannot be read is a text, and it is reported. -/
theorem bucketSize_of_unreadable (ht : limit.isLimit) (h : ¬ limit.ReadableLimit) :
    bucketSize f limit = .error (.limitNotANumber f limit) := by
  have hreport {s : String} (given : limit.asText? = some s) :
      bucketSize f limit = .error (.limitNotANumber f limit) := by
    have hs : ¬ (s = "" ∨ (integerOfText? s).isSome) := fun reads => h (.text given reads)
    rw [not_or, Bool.not_eq_true, Option.isSome_eq_false_iff, Option.isNone_iff_eq_none] at hs
    rw [bucketSize_of_text f given, if_neg hs.1, hs.2]
    rfl
  cases limit with
  | null => exact absurd .nothing h
  | bool b => exact absurd (.truth b) h
  | int n => exact absurd (.integer n) h
  | text s => exact hreport rfl
  | constant c => exact hreport rfl
  | _ => cases ht

theorem eq_asked_of_bucketSize {size : Option Int} (h : bucketSize f limit = .ok size) :
    size = limit.asked := by
  rw [Value.asked_eq]
  unfold bucketSize at h
  split at h
  · next hholds =>
    rw [if_pos hholds]
    split at h
    · next n hn =>
      rw [hn]
      exact (Except.ok.inj h).symm
    · cases h
    · cases h
  · next hholds =>
    rw [if_neg hholds]
    exact (Except.ok.inj h).symm

end Size

end Aggregation
end SearchSource
