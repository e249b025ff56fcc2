import SearchSource.Proofs.Query.Aggregation
import SearchSource.Proofs.Entries

/-! What the engine answers to aggregations, as a tree: its form on the wire, the answers that a
compiled aggregation asks for, and what an answer stands for in the end. -/
namespace SearchSource

mutual

/-- The answer to one aggregation, with what else the engine says before and after it. -/
inductive Answer
  | metric (before : Entries Value) (value : Value) (after : Entries Value)
  | buckets (before : Entries Value) (items : List (List BucketPart)) (after : Entries Value)

inductive BucketPart
  | key (v : Value)
  | keyText (v : Value)
  | count (v : Value)
  | inner (name : String) (answer : Answer)

end

namespace BucketPart

def name : BucketPart → String
  | key _ => "key"
  | keyText _ => "key_as_string"
  | count _ => "doc_count"
  | inner name _ => name

def key? : BucketPart → Option Value
  | key v => some v
  | _ => none

def count? : BucketPart → Option Value
  | count v => some v
  | _ => none

def inner? : BucketPart → Option (String × Answer)
  | inner name a => some (name, a)
  | _ => none

end BucketPart

mutual

/-- An answer as the engine sends it. -/
def Answer.toValue : Answer → Value
  | .metric before v after => .object (before ++ ("value", v) :: after)
  | .buckets before items after =>
    .object (before ++ ("buckets", .list (bucketValues items)) :: after)

def bucketValues : List (List BucketPart) → List Value
  | [] => []
  | b :: bs => .object (partEntries b) :: bucketValues bs

def partEntries : List BucketPart → Entries Value
  | [] => []
  | p :: ps => (p.name, p.value) :: partEntries ps

def BucketPart.value : BucketPart → Value
  | .key v => v
  | .keyText v => v
  | .count v => v
  | .inner _ a => a.toValue

end

/-- A bucket has a key, a number of documents, an answer for every name that was asked for and no
other, and no entry twice. -/
structure IsBucket (asked : List String) (b : List BucketPart) : Prop where
  nodup : (b.map (·.name)).Nodup
  key : ∃ v, .key v ∈ b
  count : ∃ v, .count v ∈ b
  inner : ∀ n, n ∈ asked ↔ ∃ a, .inner n a ∈ b

/-- The answers of the shape that an aggregation asks for. -/
inductive Answer.Fits : Aggregation → Answer → Prop
  | metric {f field before v after} (h : "value" ∉ before.keys) :
    Fits (.metric f field) (.metric before v after)
  | buckets {field size inner before items after} (h : "buckets" ∉ before.keys)
      (shape : ∀ b ∈ items, IsBucket (Entries.keys inner) b)
      (fits : ∀ b ∈ items, ∀ name a, .inner name a ∈ b →
          ∀ g, inner.lookup name = some g → Fits g a) :
      Fits (.buckets field size inner) (.buckets before items after)

def countOf (b : List BucketPart) : Value := (b.findSome? (·.count?)).getD .null

def keyOf (b : List BucketPart) : Value := (b.findSome? (·.key?)).getD .null

def innerOf (b : List BucketPart) : List (String × Answer) := b.filterMap (·.inner?)

mutual

/-- What an answer stands for: buckets with their count last, the keys of buckets, or a value. -/
def Answer.read : AggregateSpec → Answer → Value
  | _, .metric _ v _ => v
  | spec, .buckets _ items _ =>
    if Aggregation.functionOf? spec.function = some .values then .list (items.map keyOf)
    else .list (readBuckets (Aggregation.named spec.children) items)

def readBuckets (specs : List (String × AggregateSpec)) : List (List BucketPart) → List Value
  | [] => []
  | b :: bs => .object (readParts specs b ++ [("count", countOf b)]) :: readBuckets specs bs

def readParts (specs : List (String × AggregateSpec)) : List BucketPart → Entries Value
  | [] => []
  | p :: ps => (readPart specs p).toList ++ readParts specs ps

/-- An entry of a bucket stays as it is, but its count moves and answers are read by their
aggregates. -/
def readPart (specs : List (String × AggregateSpec)) : BucketPart → Option (String × Value)
  | .key v => some ("key", v)
  | .keyText v => some ("key_as_string", v)
  | .count _ => none
  | .inner name a => match specs.lookup name with
    | some spec => some (name, a.read spec)
    | none => none

end

def readBucket (specs : List (String × AggregateSpec)) (b : List BucketPart) : Entries Value :=
  readParts specs b ++ [("count", countOf b)]

/-- What the answers to a forest stand for, in the order of its aggregates. -/
def readForest (specs : List (String × AggregateSpec)) (answers : List (String × Answer)) :
    Entries Value :=
  specs.map fun p => (p.1, ((answers.lookup p.1).map fun a => a.read p.2).getD .null)

/-- Nothing of a bucket is lost or overwritten in the entries it comes back as, and nothing else is
in them. -/
structure Kept (specs : List (String × AggregateSpec)) (b : List BucketPart) (es : Entries Value) :
    Prop where
  keys : es.keys = (b.map (·.name)).filter (· ≠ "doc_count") ++ ["count"]
  key : ∀ v, .key v ∈ b → es.lookup "key" = some v
  keyText : ∀ v, .keyText v ∈ b → es.lookup "key_as_string" = some v
  count : ∀ v, .count v ∈ b → es.lookup "count" = some v
  inner : ∀ name a, .inner name a ∈ b →
    ∃ spec, specs.lookup name = some spec ∧ es.lookup name = some (a.read spec)

theorem bucketValues_eq_map (items : List (List BucketPart)) :
    bucketValues items = items.map fun b => .object (partEntries b) := by
  induction items with
  | nil => simp [bucketValues]
  | cons b bs ih => simp [bucketValues, ih]

theorem partEntries_eq_map (b : List BucketPart) :
    partEntries b = b.map fun p => (p.name, p.value) := by
  induction b with
  | nil => simp [partEntries]
  | cons p ps ih => simp [partEntries, ih]

theorem readBuckets_eq_map (specs : List (String × AggregateSpec))
    (items : List (List BucketPart)) :
    readBuckets specs items = items.map fun b => .object (readBucket specs b) := by
  induction items with
  | nil => simp [readBuckets]
  | cons b bs ih => simp [readBuckets, ih, readBucket]

theorem readParts_eq_filterMap (specs : List (String × AggregateSpec)) (b : List BucketPart) :
    readParts specs b = b.filterMap (readPart specs) := by
  induction b with
  | nil => simp [readParts]
  | cons p ps ih =>
    rw [readParts, ih, List.filterMap_cons]
    cases readPart specs p <;> rfl

theorem keys_partEntries (b : List BucketPart) : (partEntries b).keys = b.map (·.name) := by
  rw [partEntries_eq_map]
  simp [Entries.keys]

theorem keys_innerOf_sublist (b : List BucketPart) :
    (Entries.keys (innerOf b)).Sublist (b.map (·.name)) := by
  induction b with
  | nil => exact List.Sublist.slnil
  | cons p ps ih =>
    cases p with
    | inner name a => exact ih.cons_cons name
    | _ => exact ih.cons _

namespace IsBucket

variable {asked : List String} {b : List BucketPart}

theorem lookup_of_mem (h : IsBucket asked b) {p : BucketPart} (hp : p ∈ b) :
    (partEntries b).lookup p.name = some p.value := by
  apply Entries.lookup_of_mem
  · rw [keys_partEntries]
    exact h.nodup
  · rw [partEntries_eq_map]
    exact List.mem_map_of_mem hp

theorem lookup_innerOf (h : IsBucket asked b) {name : String} {a : Answer}
    (ha : .inner name a ∈ b) :
    (innerOf b).lookup name = some a := by
  apply Entries.lookup_of_mem (h.nodup.sublist (keys_innerOf_sublist b))
  exact List.mem_filterMap.mpr ⟨_, ha, rfl⟩

theorem findSome?_mem {f : BucketPart → Option Value} {mk : Value → BucketPart}
    (hf : ∀ p v, f p = some v ↔ p = mk v) (h : ∃ v, mk v ∈ b) :
    mk ((b.findSome? f).getD .null) ∈ b := by
  obtain ⟨v, hv⟩ := h
  have hsome : (b.findSome? f).isSome :=
    List.findSome?_isSome_iff.mpr ⟨_, hv, by rw [(hf _ v).mpr rfl]; rfl⟩
  obtain ⟨w, hw⟩ := Option.isSome_iff_exists.mp hsome
  obtain ⟨p, hp, hpw⟩ := List.exists_of_findSome?_eq_some hw
  rw [hw, Option.getD_some, ← (hf p w).mp hpw]
  exact hp

theorem key_mem (h : IsBucket asked b) : .key (keyOf b) ∈ b :=
  findSome?_mem (fun p v => by cases p <;> simp [BucketPart.key?]) h.key

theorem count_mem (h : IsBucket asked b) : .count (countOf b) ∈ b :=
  findSome?_mem (fun p v => by cases p <;> simp [BucketPart.count?]) h.count

theorem inner_mem (h : IsBucket asked b) {name : String} {a : Answer} (ha : .inner name a ∈ b) :
    name ∈ asked :=
  (h.inner name).mpr ⟨a, ha⟩

end IsBucket

theorem keys_readForest (specs : List (String × AggregateSpec)) (answers : List (String × Answer)) :
    (readForest specs answers).keys = Entries.keys specs := by
  simp [readForest, Entries.keys]

/-- What stands under a name after reading is the answer of that name, read by the aggregate of that
name. -/
theorem lookup_readForest {specs : List (String × AggregateSpec)} {answers : List (String × Answer)}
    {name : String} {spec : AggregateSpec} {a : Answer} (hs : specs.lookup name = some spec)
    (ha : answers.lookup name = some a) :
    (readForest specs answers).lookup name = some (a.read spec) := by
  unfold readForest
  rw [Entries.lookup_map fun name spec =>
    ((answers.lookup name).map fun a => a.read spec).getD .null]
  simp [hs, ha]

end SearchSource
