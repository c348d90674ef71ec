import Reckoner.Proofs.Patterns

/-!
# Floating numbers as rational numbers

Every finite floating number is a rational number, and comparison compares these.
The significand is less than `2 ^ 53`, and not less than `2 ^ 52` unless the
exponent is the least one; so the exponents decide which of two numbers is the
greater one, and the significands where the exponents agree.
-/

namespace Reckoner.Exact

open Float.Model (UnpackedFloat)

/-- The number `significand * 2 ^ exponent`. -/
def magnitude (significand : Nat) (exponent : Int) : ℚ :=
  significand * 2 ^ exponent

/-- The rational number that a finite value is. -/
def toRat? : Exact → Option ℚ
  | .finite negative significand exponent =>
      some (if negative then -magnitude significand exponent
        else magnitude significand exponent)
  | .infinite _ => none
  | .notANumber => none

/-- The significand of a finite value has as many bits as there are, or the
exponent is the least one. -/
def Normal : Exact → Prop
  | .finite _ significand exponent =>
      significand < 2 ^ 53 ∧ -1074 ≤ exponent ∧
        (2 ^ 52 ≤ significand ∨ exponent = -1074)
  | .infinite _ => True
  | .notANumber => True

theorem normal_decode (bits : Nat) :
    (BinaryFormat.double.decode bits).Normal := by
  rw [decode_double]
  split
  · split <;> trivial
  · split
    · exact ⟨by omega, Int.le_refl _, .inr rfl⟩
    · exact ⟨by omega, by omega, .inl (by omega)⟩

theorem magnitude_nonneg (significand : Nat) (exponent : Int) :
    0 ≤ magnitude significand exponent := by
  unfold magnitude
  positivity

theorem magnitude_pos {significand : Nat} (positive : 0 < significand)
    (exponent : Int) : 0 < magnitude significand exponent := by
  unfold magnitude
  positivity

/-- A greater exponent makes a greater number. -/
theorem magnitude_lt_of_exponent_lt {first second : Nat} {low high : Int}
    (small : first < 2 ^ 53) (large : 2 ^ 52 ≤ second) (below : low < high) :
    magnitude first low < magnitude second high := by
  have first_lt : (first : ℚ) < 2 ^ 53 := by exact_mod_cast small
  have le_second : (2 : ℚ) ^ 52 ≤ second := by exact_mod_cast large
  calc magnitude first low
      < 2 ^ 53 * 2 ^ low := by
        exact mul_lt_mul_of_pos_right first_lt (by positivity)
    _ = 2 ^ 52 * 2 ^ (low + 1) := by
        rw [zpow_add_one₀ two_ne_zero]
        ring
    _ ≤ 2 ^ 52 * 2 ^ high := by
        gcongr
        · norm_num
        · omega
    _ ≤ magnitude second high := by
        exact mul_le_mul_of_nonneg_right le_second (by positivity)

/-- Of two normal numbers the exponents are compared first, and then the
significands. -/
theorem compare_magnitude {first second : Nat} {low high : Int}
    (normal : (finite false first low).Normal)
    (normal' : (finite false second high).Normal) :
    (compare low high).then (compare first second) =
      compare (magnitude first low) (magnitude second high) := by
  obtain ⟨small, least, large⟩ := normal
  obtain ⟨small', least', large'⟩ := normal'
  rcases lt_trichotomy low high with below | rfl | above
  · have full : 2 ^ 52 ≤ second := by omega
    have greater := magnitude_lt_of_exponent_lt small full below
    rw [compare_lt_iff_lt.mpr below, compare_lt_iff_lt.mpr greater,
      Ordering.lt_then]
  · have increasing : StrictMono fun significand => magnitude significand low := by
      intro left right less
      have less : (left : ℚ) < right := by exact_mod_cast less
      exact mul_lt_mul_of_pos_right less (by positivity)
    rw [compare_eq_iff_eq.mpr rfl, Ordering.eq_then, ← cmp_eq_compare,
      ← cmp_eq_compare]
    exact (increasing.cmp_map_eq first second).symm
  · have full : 2 ^ 52 ≤ first := by omega
    have less := magnitude_lt_of_exponent_lt small' full above
    rw [compare_gt_iff_gt.mpr above, compare_gt_iff_gt.mpr less,
      Ordering.gt_then]

theorem compare_neg_neg (left right : ℚ) :
    compare (-left) (-right) = (compare left right).swap := by
  rcases lt_trichotomy left right with less | rfl | greater
  · rw [compare_lt_iff_lt.mpr less, compare_gt_iff_gt.mpr (neg_lt_neg less)]
    rfl
  · rw [compare_eq_iff_eq.mpr rfl, compare_eq_iff_eq.mpr rfl]
    rfl
  · rw [compare_gt_iff_gt.mpr greater,
      compare_lt_iff_lt.mpr (neg_lt_neg greater)]
    rfl

theorem toRat?_zero (sign : UnpackedFloat.Sign) :
    (ofUnpacked (.zero sign)).toRat? = some 0 := by
  cases sign <;> simp [ofUnpacked, toRat?, magnitude]

/-- Comparison of unpacked numbers compares the rational numbers that they
are. -/
theorem compare_eq {left right : UnpackedFloat} {first second : ℚ}
    (normal : (ofUnpacked left).Normal) (normal' : (ofUnpacked right).Normal)
    (isFirst : (ofUnpacked left).toRat? = some first)
    (isSecond : (ofUnpacked right).toRat? = some second) :
    left.compare right = some (compare first second) := by
  cases left with
  | notANumber | infinity => cases isFirst
  | zero sign =>
      rw [toRat?_zero] at isFirst
      cases isFirst
      cases right with
      | notANumber | infinity => cases isSecond
      | zero sign' =>
          rw [toRat?_zero] at isSecond
          cases isSecond
          rw [compare_eq_iff_eq.mpr rfl]
          rfl
      | finite sign' significand' exponent' positive' =>
          have above := magnitude_pos positive' exponent'
          cases sign' with
          | positive =>
              cases isSecond
              exact congrArg some (compare_lt_iff_lt.mpr above).symm
          | negative =>
              cases isSecond
              exact congrArg some
                (compare_gt_iff_gt.mpr (neg_lt_zero.mpr above)).symm
  | finite sign significand exponent positive =>
      have above := magnitude_pos positive exponent
      cases right with
      | notANumber | infinity => cases isSecond
      | zero sign' =>
          rw [toRat?_zero] at isSecond
          cases isSecond
          cases sign with
          | positive =>
              cases isFirst
              exact congrArg some (compare_gt_iff_gt.mpr above).symm
          | negative =>
              cases isFirst
              exact congrArg some
                (compare_lt_iff_lt.mpr (neg_lt_zero.mpr above)).symm
      | finite sign' significand' exponent' positive' =>
          have above' := magnitude_pos positive' exponent'
          cases sign with
          | positive =>
              cases isFirst
              cases sign' with
              | positive =>
                  cases isSecond
                  exact congrArg some (compare_magnitude normal normal')
              | negative =>
                  cases isSecond
                  exact congrArg some (compare_gt_iff_gt.mpr
                    ((neg_lt_zero.mpr above').trans above)).symm
          | negative =>
              cases isFirst
              cases sign' with
              | positive =>
                  cases isSecond
                  exact congrArg some (compare_lt_iff_lt.mpr
                    ((neg_lt_zero.mpr above).trans above')).symm
              | negative =>
                  cases isSecond
                  have mirrored := compare_neg_neg
                    (magnitude significand exponent)
                    (magnitude significand' exponent')
                  rw [← compare_magnitude normal normal'] at mirrored
                  exact congrArg some mirrored.symm

section Floats

variable {left right : Float} {first second : ℚ}

theorem normal_ofFloat (value : Float) : (ofFloat value).Normal :=
  normal_decode _

theorem compare_toModel (isFirst : (ofFloat left).toRat? = some first)
    (isSecond : (ofFloat right).toRat? = some second) :
    left.toModel.unpack.compare right.toModel.unpack =
      some (compare first second) := by
  have normal := normal_ofFloat left
  have normal' := normal_ofFloat right
  rw [ofFloat_eq_ofUnpacked] at isFirst isSecond normal normal'
  exact compare_eq normal normal' isFirst isSecond

/-- Finite numbers are compared by their exact values. -/
theorem lt_iff (isFirst : (ofFloat left).toRat? = some first)
    (isSecond : (ofFloat right).toRat? = some second) :
    left < right ↔ first < second := by
  have opened : left < right ↔
      (left.toModel.unpack.compare right.toModel.unpack == some .lt) = true :=
    decide_eq_true_iff
  rw [opened, compare_toModel isFirst isSecond, beq_iff_eq, Option.some_inj,
    compare_lt_iff_lt]

theorem le_iff (isFirst : (ofFloat left).toRat? = some first)
    (isSecond : (ofFloat right).toRat? = some second) :
    left ≤ right ↔ first ≤ second := by
  have opened : left ≤ right ↔
      ((left.toModel.unpack.compare right.toModel.unpack).any
        fun order => order.isLE) = true :=
    decide_eq_true_iff
  rw [opened, compare_toModel isFirst isSecond, Option.any_some,
    ← Ordering.ne_gt_iff_isLE]
  exact compare_le_iff_le

theorem isFinite_eq (value : Float) :
    value.isFinite = (ofFloat value).toRat?.isSome := by
  have opened : value.isFinite = value.toModel.unpack.isFinite := rfl
  rw [opened, ofFloat_eq_ofUnpacked]
  cases value.toModel.unpack with
  | notANumber | infinity | zero | finite => rfl

end Floats

end Reckoner.Exact
