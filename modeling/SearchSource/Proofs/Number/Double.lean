import SearchSource.Number.Numeral

/-! Doubles that are no number. Not to be at or below zero is less than to be above it, as what is
no number is neither. Of all numerals only its name gives it: digits never do, however large or
small the number is. Main statements: `not_le_zero_iff` and `realOfText?_isNaN_iff`. -/
namespace SearchSource.Number
open Float.Model Float.Model.UnpackedFloat

theorem le_zero_eq (u : UnpackedFloat) :
    u.le (.zero .positive) = !((UnpackedFloat.zero .positive).lt u || u.isNaN) := by
  cases u with
  | notANumber => rfl
  | infinity s => cases s <;> rfl
  | zero s => rfl
  | finite s m e hm => cases s <;> rfl

theorem lt_eq_false_of_isNaN {u : UnpackedFloat} (hu : u.isNaN) :
    (UnpackedFloat.zero .positive).lt u = false := by
  cases u with
  | notANumber => rfl
  | _ => cases hu

section Comparison

variable {x : Float}

theorem zero_lt_iff : 0.0 < x ↔ (UnpackedFloat.zero .positive).lt x.toModel.unpack := by
  change decide ((UnpackedFloat.zero .positive).lt x.toModel.unpack = true) = true ↔ _
  rw [decide_eq_true_iff]

theorem le_zero_iff : x ≤ 0.0 ↔ x.toModel.unpack.le (.zero .positive) := by
  change decide (x.toModel.unpack.le (.zero .positive) = true) = true ↔ _
  rw [decide_eq_true_iff]

theorem not_le_zero_iff : ¬ x ≤ 0.0 ↔ 0.0 < x ∨ x.isNaN := by
  have hnan : x.isNaN = x.toModel.unpack.isNaN := rfl
  rw [le_zero_iff, zero_lt_iff, hnan, le_zero_eq, ← Bool.or_eq_true, Bool.not_eq_true,
    Bool.not_eq_false']

theorem not_zero_lt_of_isNaN (h : x.isNaN) : ¬ 0.0 < x := by
  have hnan : x.toModel.unpack.isNaN := h
  rw [zero_lt_iff, lt_eq_false_of_isNaN hnan]
  decide

end Comparison

/-! ### Operations that give a number -/

theorem isNaN_dite {p : Prop} [Decidable p] {u : p → UnpackedFloat} {w : ¬ p → UnpackedFloat}
    (hu : ∀ h, (u h).isNaN = false) (hw : ∀ h, (w h).isNaN = false) :
    (dite p u w).isNaN = false := by
  by_cases h : p
  · rw [dif_pos h, hu h]
  · rw [dif_neg h, hw h]

/-- Bits are those of a number unless the exponent has all ones and the mantissa some. -/
theorem isNaN_unpack_packComponents (s : Sign) {e : BitVec 11} {m : BitVec 52}
    (h : e ≠ -1#11 ∨ m = 0#52) :
    (unpack .binary64 (packComponents .binary64 s e m)).isNaN = false := by
  have hexponent : unpackExponent (packComponents Format.binary64 s e m) = e :=
    unpackExponent_packComponents ..
  have hmantissa : unpackMantissa (packComponents Format.binary64 s e m) = m :=
    unpackMantissa_packComponents ..
  unfold UnpackedFloat.unpack
  dsimp only
  by_cases hones : e = -1#11
  · have hinfinite := h.resolve_left (not_not_intro hones)
    rw [if_pos (hexponent.trans hones), if_pos (hmantissa.trans hinfinite)]
    rfl
  · rw [if_neg (mt hexponent.symm.trans hones)]
    exact isNaN_dite (fun _ => isNaN_dite (fun _ => rfl) fun _ => rfl) fun _ => rfl

theorem isNaN_pack {u : UnpackedFloat} (hu : u.isNaN = false) :
    (Float.Model.pack u).isNaN = false := by
  change (unpack .binary64 (UnpackedFloat.pack .binary64 u)).isNaN = false
  cases u with
  | notANumber => cases hu
  | infinity s => exact isNaN_unpack_packComponents s (.inr rfl)
  | zero s => exact isNaN_unpack_packComponents s (.inr rfl)
  | finite s m e hm =>
    unfold UnpackedFloat.pack
    dsimp only
    split
    · exact isNaN_unpack_packComponents s (.inr rfl)
    · next hfits =>
      split
      · refine isNaN_unpack_packComponents s (.inl fun h => hfits ?_)
        -- a number that is too large has become infinite by now, so the exponent stays below all
        -- ones
        have hbits := congrArg BitVec.toNat h
        change _ % 2 ^ 11 = 2 ^ 11 - 1 at hbits
        change 2 ^ 11 ≤ _
        omega
      · exact isNaN_unpack_packComponents s (.inl (by decide))

theorem isNaN_roundWithAccuracy (f : Format) (s : Sign) (m : Nat) (e : Int) (a : Accuracy) :
    (roundWithAccuracy f s m e a).isNaN = false := by
  unfold roundWithAccuracy
  exact isNaN_dite (fun _ => rfl) fun _ => rfl

def IsNonzero (u : UnpackedFloat) : Prop := ∃ s m e hm, u = .finite s m e hm

section Operations

variable {f : Format} {u w : UnpackedFloat} (hu : u.isNaN = false)

include hu

theorem isNaN_mul (hw : IsNonzero w) : (u.mul f w).isNaN = false := by
  obtain ⟨s, m, e, hm, rfl⟩ := hw
  cases u with
  | notANumber => cases hu
  | finite t n d hn => exact isNaN_roundWithAccuracy ..
  | _ => rfl

theorem isNaN_div (hw : IsNonzero w) : (u.div f w).isNaN = false := by
  obtain ⟨s, m, e, hm, rfl⟩ := hw
  cases u with
  | notANumber => cases hu
  | finite t n d hn => exact isNaN_roundWithAccuracy ..
  | _ => rfl

theorem isNaN_neg : u.neg.isNaN = false := by
  cases u with
  | notANumber => cases hu
  | _ => rfl

end Operations

theorem isNaN_ofInt (f : Format) (n : Int) : (UnpackedFloat.ofInt f n).isNaN = false := by
  unfold UnpackedFloat.ofInt UnpackedFloat.normalize UnpackedFloat.round
  dsimp only
  split
  · exact isNaN_roundWithAccuracy ..
  · rfl
  · exact isNaN_roundWithAccuracy ..

theorem isNaN_ofScientific_unpacked (f : Format) (m : Nat) (e : Int) :
    (UnpackedFloat.ofScientific f m e).isNaN = false := by
  unfold UnpackedFloat.ofScientific
  refine isNaN_dite (fun _ => rfl) fun _ => ?_
  refine isNaN_dite (fun _ => rfl) fun _ => ?_
  refine isNaN_dite (fun _ => rfl) fun _ => ?_
  refine isNaN_dite (fun _ => ?_) fun _ => ?_
  · exact isNaN_mul rfl ⟨_, _, _, _, rfl⟩
  · exact isNaN_div rfl ⟨_, _, _, _, rfl⟩

theorem isNonzero_power {i : Nat} (h : i < Float.exactlyRepresentablePowersOfTen.size) :
    IsNonzero Float.exactlyRepresentablePowersOfTen[i].toModel.unpack := by
  have hall : ∀ i (h : i < Float.exactlyRepresentablePowersOfTen.size),
      (match Float.exactlyRepresentablePowersOfTen[i].toModel.unpack with
        | .finite _ _ _ _ => true
        | _ => false) = true := by decide
  have hi := hall i h
  split at hi
  · next heq => exact ⟨_, _, _, _, heq⟩
  · cases hi

/-- Few digits and a small exponent are joined by one operation on exact doubles, all others at
once. -/
theorem isNaN_ofScientific (m : Nat) (below : Bool) (e : Nat) :
    (Float.ofScientific m below e).isNaN = false := by
  unfold Float.ofScientific
  split
  · next h =>
    have hpower := isNonzero_power (Nat.lt_succ_of_le h.2)
    have hdigits : m.toUInt64.toFloat.toModel.unpack.isNaN = false := isNaN_pack (isNaN_ofInt _ _)
    dsimp only
    split
    · exact isNaN_pack (isNaN_div hdigits hpower)
    · exact isNaN_pack (isNaN_mul hdigits hpower)
  · exact isNaN_pack (isNaN_ofScientific_unpacked _ _ _)

/-! ### Numerals -/

theorem isNaN_ite_neg {x : Float} (hx : x.isNaN = false) (negative : Bool) :
    (if negative then -x else x).isNaN = false := by
  cases negative with
  | false => exact hx
  | true => exact isNaN_pack (isNaN_neg hx)

theorem isNaN_infinity : infinity.isNaN = false := rfl

theorem Scientific.isNaN_toFloat (s : Scientific) : s.toFloat.isNaN = false := by
  unfold toFloat
  dsimp only
  refine isNaN_ite_neg ?_ s.negative
  split
  · rfl
  split
  · exact isNaN_infinity
  · exact isNaN_ofScientific ..

theorem Numeral.isNaN_toFloat_iff {r : Numeral} : r.toFloat.isNaN ↔ r = .undefined := by
  cases r with
  | finite s => exact iff_of_false (by rw [toFloat, s.isNaN_toFloat]; decide) nofun
  | infinite negative =>
    exact iff_of_false (by rw [toFloat, isNaN_ite_neg isNaN_infinity]; decide) nofun
  | undefined => exact iff_of_true rfl rfl

/-- The name of what is no number, in any case, behind a sign or none and with blanks around. -/
def NamesNoNumber (s : String) : Prop :=
  (signed (Text.trim Text.isNumeralBlank s.toList)).2.map Char.toLower = "nan".toList

theorem namedReal?_eq_undefined_iff (negative : Bool) {cs : List Char} :
    namedReal? negative cs = some .undefined ↔ cs.map Char.toLower = "nan".toList := by
  have hname : String.ofList (cs.map Char.toLower) = "nan" ↔ cs.map Char.toLower = "nan".toList :=
    ⟨fun h => by rw [← h, String.toList_ofList], fun h => by rw [h, String.ofList_toList]⟩
  rw [← hname]
  unfold namedReal?
  dsimp only
  generalize String.ofList (cs.map Char.toLower) = name
  split
  · next hinfinite =>
    refine iff_of_false nofun ?_
    rcases hinfinite with rfl | rfl <;> decide
  · split
    · next hnan => exact iff_of_true rfl hnan
    · next hnan => exact iff_of_false nofun hnan

theorem realOfText?_eq_undefined_iff {s : String} :
    realOfText? s = some .undefined ↔ NamesNoNumber s := by
  unfold NamesNoNumber
  rw [← namedReal?_eq_undefined_iff (signed (Text.trim Text.isNumeralBlank s.toList)).1]
  unfold realOfText? readReal?
  dsimp only
  cases namedReal? _ (signed (Text.trim Text.isNumeralBlank s.toList)).2 with
  | some r => rfl
  | none =>
    -- what has digits is read as a finite number
    refine iff_of_false (fun h => ?_) nofun
    obtain ⟨_, -, h⟩ := Option.bind_eq_some_iff.mp h
    obtain ⟨_, -, h⟩ := Option.bind_eq_some_iff.mp h
    cases h

theorem realOfText?_isNaN_iff {s : String} :
    (∃ r, realOfText? s = some r ∧ r.toFloat.isNaN) ↔ NamesNoNumber s := by
  simp only [Numeral.isNaN_toFloat_iff, exists_eq_right, realOfText?_eq_undefined_iff]

end SearchSource.Number
