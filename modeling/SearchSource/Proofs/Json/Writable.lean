import SearchSource.Json.Printer
import SearchSource.Proofs.Value
import Mathlib.Algebra.Group.Nat.Defs

/-! Which values JSON can be written of. Main statement: `fault?_eq_none`. -/
namespace SearchSource

namespace Value

/-- A value is a part of itself and of whatever it stands in, at any depth. -/
inductive Part (part : Value) : Value → Prop
  | whole : Part part part
  | item {vs v} (h : v ∈ vs) (inner : Part part v) : Part part (.list vs)
  | component {vs v} (h : v ∈ vs) (inner : Part part v) : Part part (.tuple vs)
  | entry {es : List (String × Value)} {e} (h : e ∈ es) (inner : Part part e.2) :
    Part part (.object es)
  | keyed {k v} (inner : Part part v) : Part part (.keyed k v)

theorem Nested.part {inner v : Value} (h : Nested inner v) : Part inner v := by
  induction h with
  | whole => exact .whole
  | entry he _ ih => exact .entry he ih

end Value

namespace Json

/-- Integers up to this length have a numeral. -/
theorem fits_iff (n : Int) : fits n ↔ n.natAbs < 10 ^ Number.digitLimit := by
  unfold fits
  rw [decide_eq_true_iff]
  exact Nat.length_toDigits_le_iff (by decide) (by decide)

/-- A value whose keys, at every depth, are texts, and whose integers have at most so many digits as
a numeral may have. Nothing is said about its other leaves. -/
structure Writable (v : Value) : Prop where
  keys : ∀ k w, ¬ Value.Part (.keyed k w) v
  integers : ∀ n : Int, Value.Part (.int n) v → n.natAbs < 10 ^ Number.digitLimit

theorem Writable.hasTextKeys {v : Value} (h : Writable v) : v.HasTextKeys :=
  fun k w hk => h.keys k w hk.part

theorem Writable.of_part {v w : Value} (h : Writable v)
    (hpart : ∀ u, Value.Part u w → Value.Part u v) :
    Writable w :=
  ⟨fun k x hk => h.keys k x (hpart _ hk), fun n hn => h.integers n (hpart _ hn)⟩

mutual

theorem fault?_eq_none : ∀ {v : Value}, Writable v → fault? v = none
  | .int n, h => by
    unfold fault?
    rw [if_pos ((fits_iff n).mpr (h.integers n .whole))]
  | .list vs, h => by
    unfold fault?
    exact itemFault?_eq_none fun v hv => h.of_part fun _ hu => .item hv hu
  | .tuple vs, h => by
    unfold fault?
    exact itemFault?_eq_none fun v hv => h.of_part fun _ hu => .component hv hu
  | .object es, h => by
    unfold fault?
    exact entryFault?_eq_none fun e he => h.of_part fun _ hu => .entry he hu
  | .keyed k v, h => absurd .whole (h.keys k v)
  | .null, _ | .bool _, _ | .float _, _ | .text _, _ | .decimal _, _ | .date _, _ | .moment _, _
  | .bytes _, _ | .constant _, _ => by unfold fault?; rfl

theorem itemFault?_eq_none : ∀ {vs : List Value}, (∀ v ∈ vs, Writable v) → itemFault? vs = none
  | [], _ => by unfold itemFault?; rfl
  | v :: vs, h => by
    unfold itemFault?
    rw [fault?_eq_none (h v (by simp)), itemFault?_eq_none fun w hw => h w (by simp [hw])]
    rfl

theorem entryFault?_eq_none : ∀ {es : List (String × Value)},
    (∀ e ∈ es, Writable e.2) → entryFault? es = none
  | [], _ => by unfold entryFault?; rfl
  | (k, v) :: es, h => by
    unfold entryFault?
    rw [fault?_eq_none (h (k, v) (by simp)), entryFault?_eq_none fun e he => h e (by simp [he])]
    rfl

end

theorem writable_text (s : String) : Writable (.text s) := ⟨nofun, nofun⟩

theorem writable_list {vs : List Value} (h : ∀ v ∈ vs, Writable v) : Writable (.list vs) := by
  constructor
  · rintro k w (_ | ⟨hv, inner⟩)
    exact (h _ hv).keys k w inner
  · rintro n (_ | ⟨hv, inner⟩)
    exact (h _ hv).integers n inner

theorem writable_tuple {vs : List Value} (h : ∀ v ∈ vs, Writable v) : Writable (.tuple vs) := by
  constructor
  · rintro k w (_ | _ | ⟨hv, inner⟩)
    exact (h _ hv).keys k w inner
  · rintro n (_ | _ | ⟨hv, inner⟩)
    exact (h _ hv).integers n inner

theorem writable_object {es : List (String × Value)} (h : ∀ e ∈ es, Writable e.2) :
    Writable (.object es) := by
  constructor
  · rintro k w (_ | _ | _ | ⟨he, inner⟩)
    exact (h _ he).keys k w inner
  · rintro n (_ | _ | _ | ⟨he, inner⟩)
    exact (h _ he).integers n inner

end Json
end SearchSource
