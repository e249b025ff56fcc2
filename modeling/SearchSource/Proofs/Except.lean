import Mathlib.Data.List.Forall2

/-! Programs that may fail: when they succeed, and with what. -/
namespace SearchSource
namespace Except

@[simp] theorem bind_ok {ε α β : Type} (a : α) (f : α → Except ε β) : (Except.ok a >>= f) = f a :=
  rfl

theorem bind_eq_ok {ε α β : Type} {x : Except ε α} {f : α → Except ε β} {b : β} :
    x >>= f = .ok b ↔ ∃ a, x = .ok a ∧ f a = .ok b := by
  cases x <;> simp [bind, Except.bind]

theorem bind_eq_error {ε α β : Type} {x : Except ε α} {f : α → Except ε β} {e : ε} :
    x >>= f = .error e ↔ x = .error e ∨ ∃ a, x = .ok a ∧ f a = .error e := by
  cases x <;> simp [bind, Except.bind]

theorem bind_pure_eq_error {ε α β : Type} {x : Except ε α} {f : α → β} {e : ε} :
    (x >>= fun a => pure (f a)) = .error e ↔ x = .error e := by
  cases x <;> simp [bind, Except.bind, pure, Except.pure]

theorem pure_eq_ok {ε α : Type} {a b : α} : (pure a : Except ε α) = .ok b ↔ a = b := by
  simp [pure, Except.pure]

theorem map_eq_map {ε α β : Type} {f : α → β} {x y : Except ε α} (h : x.map f = y.map f) :
    (∃ e, x = .error e ∧ y = .error e) ∨ ∃ a b, x = .ok a ∧ y = .ok b ∧ f a = f b := by
  cases x with
  | error e =>
    cases y with
    | error e' => exact .inl ⟨e, rfl, congrArg Except.error (Except.error.inj h).symm⟩
    | ok b => cases h
  | ok a =>
    cases y with
    | error e' => cases h
    | ok b => exact .inr ⟨a, b, rfl, rfl, Except.ok.inj h⟩

/-- What a program fails with, if it fails. -/
def error? {ε α : Type} : Except ε α → Option ε
  | .error e => some e
  | .ok _ => none

theorem error?_eq_some {ε α : Type} {x : Except ε α} {e : ε} :
    error? x = some e ↔ x = .error e := by
  cases x <;> simp [error?]

/-- Of two steps in turn the first one that fails counts. -/
theorem error?_bind {ε α β : Type} {x : Except ε α} {f : α → Except ε β} {r : Option ε}
    (h : ∀ a, error? (f a) = r) :
    error? (x >>= f) = (error? x).or r := by
  cases x with
  | error e => rfl
  | ok a => exact h a

theorem error?_bind_pure {ε α β : Type} {x : Except ε α} {f : α → β} :
    error? (x >>= fun a => pure (f a)) = error? x := by
  cases x <;> rfl

end Except

section Traversal

variable {ε α β : Type} {f : α → Except ε β} {xs : List α}

/-- All succeed, each with what it should give, if each one does. -/
theorem exists_mapM_forall₂_iff {P : α → β → Prop} :
    (∃ ys, xs.mapM f = .ok ys ∧ List.Forall₂ P xs ys) ↔ ∀ x ∈ xs, ∃ y, f x = .ok y ∧ P x y := by
  induction xs with
  | nil => exact iff_of_true ⟨[], rfl, .nil⟩ (by simp)
  | cons x xs ih =>
    rw [List.forall_mem_cons, ← ih, List.mapM_cons]
    constructor
    · rintro ⟨ys, hys, hP⟩
      obtain ⟨y, hy, hys⟩ := Except.bind_eq_ok.mp hys
      obtain ⟨zs, hzs, hys⟩ := Except.bind_eq_ok.mp hys
      obtain rfl : y :: zs = ys := Except.pure_eq_ok.mp hys
      obtain ⟨hxy, hrest⟩ := List.forall₂_cons.mp hP
      exact ⟨⟨y, hy, hxy⟩, zs, hzs, hrest⟩
    · rintro ⟨⟨y, hy, hxy⟩, zs, hzs, hrest⟩
      refine ⟨y :: zs, ?_, .cons hxy hrest⟩
      rw [hy, hzs]
      rfl

theorem exists_mapM_eq_ok (h : ∀ x ∈ xs, ∃ y, f x = .ok y) : ∃ ys, xs.mapM f = .ok ys := by
  obtain ⟨ys, hys, -⟩ := exists_mapM_forall₂_iff.mpr fun x hx => (h x hx).imp fun y hy => ⟨hy, hy⟩
  exact ⟨ys, hys⟩

theorem exists_of_mapM_eq_error {e : ε} (h : xs.mapM f = .error e) : ∃ x ∈ xs, f x = .error e := by
  induction xs with
  | nil => cases h
  | cons x xs ih =>
    rw [List.mapM_cons, Except.bind_eq_error] at h
    rcases h with hx | ⟨y, -, h⟩
    · exact ⟨x, List.mem_cons_self, hx⟩
    · obtain ⟨z, hz, hzs⟩ := ih (Except.bind_pure_eq_error.mp h)
      exact ⟨z, List.mem_cons_of_mem x hz, hzs⟩

/-- If one fails, not all succeed. -/
theorem exists_mapM_eq_error {x : α} (hx : x ∈ xs) {e : ε} (h : f x = .error e) :
    ∃ e', xs.mapM f = .error e' := by
  induction xs with
  | nil => cases hx
  | cons y ys ih =>
    rw [List.mapM_cons]
    cases hy : f y with
    | error e' => exact ⟨e', rfl⟩
    | ok b =>
      have hne : x ≠ y := by
        rintro rfl
        cases h.symm.trans hy
      obtain ⟨e', he'⟩ := ih ((List.mem_cons.mp hx).resolve_left hne)
      refine ⟨e', ?_⟩
      rw [he']
      rfl

end Traversal

end SearchSource
