import Reckoner.Proofs.Evaluation
import Reckoner.Proofs.Magnitude

/-!
# Whole numbers from exact values

A calculator for whole numbers gives back the exact value of an expression without
its fraction wherever that is in range, and refuses every other value
(`Number.truncates_of_64_and_32_bits`).  Truncation clears bits of a pattern, and is
compared here with truncation of the rational number that the pattern stands for
(`Exact.toRat?_truncate`).

The least number of a kind is a floating number, and so is its opposite, which is
one more than the greatest number.  That one need not be a floating number, which is
why the opposite is the upper bound of the test (`Number.truncateWithin_eq`).
-/

namespace Reckoner

/-- A rational number without its fraction. -/
def towardZero (number : ℚ) : ℤ :=
  if number < 0 then ⌈number⌉ else ⌊number⌋

namespace Exact

theorem towardZero_neg {number : ℚ} (nonneg : 0 ≤ number) :
    towardZero (-number) = -⌊number⌋ := by
  rcases nonneg.eq_or_lt with rfl | positive
  · simp [towardZero]
  · rw [towardZero, if_pos (neg_lt_zero.mpr positive), Int.ceil_neg]

theorem towardZero_intCast (whole : ℤ) : towardZero whole = whole := by
  rw [towardZero, Int.ceil_intCast, Int.floor_intCast, ite_self]

theorem floor_magnitude (significand : Nat) (exponent : Int) :
    ⌊magnitude significand exponent⌋ = wholePart significand exponent := by
  cases exponent with
  | ofNat exponent =>
      have whole : magnitude significand (.ofNat exponent) =
          (significand * Nat.pow 2 exponent : Nat) := by
        simp [magnitude]
      rw [whole, Int.floor_natCast, wholePart]
  | negSucc exponent =>
      have quotient : magnitude significand (.negSucc exponent) =
          significand / (Nat.pow 2 (exponent + 1) : Nat) := by
        simp [magnitude, div_eq_mul_inv]
      rw [quotient, Rat.floor_natCast_div_natCast, wholePart, Int.natCast_ediv]

/-- Truncation on significand and exponent is truncation of the number. -/
theorem truncate?_eq (exact : Exact) :
    exact.truncate? = exact.toRat?.map towardZero := by
  cases exact with
  | infinite | notANumber => rfl
  | finite negative significand exponent =>
      have nonneg := magnitude_nonneg significand exponent
      cases negative with
      | true =>
          refine congrArg some (Eq.symm ?_)
          exact (towardZero_neg nonneg).trans (congrArg _ (floor_magnitude _ _))
      | false =>
          refine congrArg some (Eq.symm ?_)
          refine Eq.trans ?_ (floor_magnitude _ _)
          exact if_neg (not_lt_of_ge nonneg)

/-- Less than one is left of a number without a whole part. -/
theorem wholePart_of_small {significand : Nat} {exponent : Int}
    (small : significand < 2 ^ 53) (low : exponent ≤ -53) :
    wholePart significand exponent = 0 := by
  obtain ⟨places, rfl⟩ := Int.eq_negSucc_of_lt_zero (show exponent < 0 by omega)
  apply Nat.div_eq_of_lt
  exact Nat.lt_of_lt_of_le small
    (Nat.pow_le_pow_right Nat.two_pos (by omega))

/-- Without the bits behind the point a significand makes a whole number. -/
theorem magnitude_cleared (significand : Nat) (exponent : Int) :
    magnitude (significand - significand % 2 ^ (-exponent).toNat) exponent =
      wholePart significand exponent := by
  cases exponent with
  | ofNat exponent =>
      have none : (-Int.ofNat exponent).toNat = 0 := by
        rw [Int.ofNat_eq_natCast]
        omega
      rw [none, pow_zero, Nat.mod_one, Nat.sub_zero]
      simp [magnitude, wholePart]
  | negSucc exponent =>
      have places : (-Int.negSucc exponent).toNat = exponent + 1 := rfl
      have quotient : significand - significand % 2 ^ (exponent + 1) =
          significand / 2 ^ (exponent + 1) * 2 ^ (exponent + 1) := by
        rw [← Nat.div_mul_self_eq_mod_sub_self]
      have cancels : (2 : ℚ) ^ (exponent + 1) * 2 ^ Int.negSucc exponent = 1 := by
        rw [zpow_negSucc]
        exact mul_inv_cancel₀ (by positivity)
      rw [places, quotient, magnitude, Nat.cast_mul, Nat.cast_pow,
        Nat.cast_ofNat, mul_assoc, cancels, mul_one]
      rfl

theorem toRat?_eq_of_magnitude_eq {negative : Bool}
    {significand significand' : Nat} {exponent exponent' : Int}
    (whole : magnitude significand' exponent' =
      wholePart significand exponent) :
    (finite negative significand' exponent').toRat? =
      (finite negative significand exponent).truncate?.map Int.cast := by
  cases negative <;> simp [toRat?, truncate?, whole]

theorem bitsBehindPoint_double (bits : Nat) :
    BinaryFormat.double.bitsBehindPoint bits =
      if bits / 2 ^ 52 % 2 ^ 11 < 1023 then 63
      else 1075 - bits / 2 ^ 52 % 2 ^ 11 :=
  rfl

/-- Of a number below one nothing but the sign is left. -/
theorem toRat?_decode_of_small {bits : Nat}
    (small : bits / 2 ^ 52 % 2 ^ 11 < 1023) :
    (BinaryFormat.double.decode (bits - bits % 2 ^ 63)).toRat? =
      (BinaryFormat.double.decode bits).truncate?.map Int.cast := by
  have sign : (bits - bits % 2 ^ 63) / 2 ^ 63 % 2 = bits / 2 ^ 63 % 2 := by
    omega
  have field : (bits - bits % 2 ^ 63) / 2 ^ 52 % 2 ^ 11 = 0 := by omega
  have fraction : (bits - bits % 2 ^ 63) % 2 ^ 52 = 0 := by omega
  rw [decode_double (bits - _), decode_double bits, sign, field, fraction,
    if_neg (by omega), if_pos rfl, if_neg (by omega)]
  split
  · apply toRat?_eq_of_magnitude_eq
    rw [wholePart_of_small (by omega) (by omega)]
    simp [magnitude]
  · apply toRat?_eq_of_magnitude_eq
    rw [wholePart_of_small (by omega) (by omega)]
    simp [magnitude]

/-- Of a number that is not below one, sign and exponent are kept, and the fraction
loses the bits behind the point. -/
theorem toRat?_decode_of_large {bits behind : Nat}
    (large : 1023 ≤ bits / 2 ^ 52 % 2 ^ 11)
    (places : behind = 1075 - bits / 2 ^ 52 % 2 ^ 11) :
    (BinaryFormat.double.decode (bits - bits % 2 ^ behind)).toRat? =
      (BinaryFormat.double.decode bits).truncate?.map Int.cast := by
  have divides : 2 ^ behind ∣ 2 ^ 52 := Nat.pow_dvd_pow 2 (by omega)
  have low : bits % 2 ^ 52 % 2 ^ behind = bits % 2 ^ behind :=
    Nat.mod_mod_of_dvd bits divides
  have within : bits % 2 ^ behind ≤ bits % 2 ^ 52 := by
    rw [← low]
    exact Nat.mod_le _ _
  have sign : (bits - bits % 2 ^ behind) / 2 ^ 63 = bits / 2 ^ 63 := by omega
  have field : (bits - bits % 2 ^ behind) / 2 ^ 52 = bits / 2 ^ 52 := by omega
  have fraction : (bits - bits % 2 ^ behind) % 2 ^ 52 =
      bits % 2 ^ 52 - bits % 2 ^ behind := by
    omega
  rw [decode_double (bits - _), decode_double bits, sign, field, fraction]
  by_cases top : bits / 2 ^ 52 % 2 ^ 11 = 2047
  · rw [if_pos top, if_pos top]
    split <;> split <;> rfl
  · rw [if_neg top, if_neg top, if_neg (by omega), if_neg (by omega)]
    apply toRat?_eq_of_magnitude_eq
    rw [← magnitude_cleared]
    congr 1
    have exponent :
        (-(-1074 + ((bits / 2 ^ 52 % 2 ^ 11 - 1 : Nat) : Int))).toNat =
          behind := by
      omega
    have cut : (2 ^ 52 + bits % 2 ^ 52) % 2 ^ behind = bits % 2 ^ behind := by
      rw [Nat.add_mod, Nat.mod_eq_zero_of_dvd divides, Nat.zero_add,
        Nat.mod_mod, low]
    rw [exponent, cut]
    omega

/-- Without the bits behind the point a pattern stands for a whole number. -/
theorem toRat?_decode_cleared (bits : Nat) :
    (BinaryFormat.double.decode
        (bits - bits % 2 ^ BinaryFormat.double.bitsBehindPoint bits)).toRat? =
      (BinaryFormat.double.decode bits).truncate?.map Int.cast := by
  rw [bitsBehindPoint_double]
  split
  · rename_i small
    exact toRat?_decode_of_small small
  · rename_i large
    exact toRat?_decode_of_large (Nat.le_of_not_lt large) rfl

/-- Truncation of a floating number is truncation of its exact value. -/
theorem toRat?_truncate (value : Float) :
    (ofFloat (Real.truncate value)).toRat? =
      (ofFloat value).truncate?.map Int.cast := by
  have bound := value.toBits.toNat_lt
  have kept : (UInt64.ofNat (value.toBits.toNat - value.toBits.toNat %
      2 ^ BinaryFormat.double.bitsBehindPoint value.toBits.toNat)).toNat =
        value.toBits.toNat - value.toBits.toNat %
          2 ^ BinaryFormat.double.bitsBehindPoint value.toBits.toNat :=
    UInt64.toNat_ofNat_of_lt' (Nat.lt_of_le_of_lt (Nat.sub_le _ _) bound)
  rw [Real.truncate, ofFloat_ofBits]
  exact (congrArg (fun bits => (BinaryFormat.double.decode bits).toRat?)
    kept).trans (toRat?_decode_cleared _)

/-- A whole number between the bounds is kept. -/
theorem saturate_eq {least greatest whole : Int} {value : Float}
    (isWhole : (ofFloat value).toRat? = some (whole : ℚ))
    (least_le : least ≤ whole) (le_greatest : whole ≤ greatest) :
    Real.saturate least greatest value = whole := by
  have truncated : (ofFloat value).truncate? = some whole := by
    rw [truncate?_eq, isWhole, Option.map_some, towardZero_intCast]
  have kept : max least (min greatest whole) = whole := by omega
  unfold Real.saturate
  split
  · rename_i infinite
    rw [infinite] at isWhole
    cases isWhole
  · rw [truncated, Option.getD_some, kept]

end Exact

namespace Number

variable {least greatest : Int}

/-- The opposite of a bound that is a floating number is one, too, and the test
against both finds out what lies between them. -/
theorem truncateWithin_eq (name : String) (value : Float)
    (bound : (Exact.ofFloat (Float.ofInt least)).toRat? = some (least : ℚ))
    (opposite : (Exact.ofFloat (-Float.ofInt least)).toRat? =
      some ((greatest + 1 : Int) : ℚ)) :
    truncateWithin name least greatest value =
      match (Exact.ofFloat value).truncate? with
      | some whole =>
          if least ≤ whole ∧ whole ≤ greatest then .ok whole
          else .error (.notRepresentable value name)
      | none => .error (.notRepresentable value name) := by
  have truncated := Exact.toRat?_truncate value
  unfold truncateWithin
  cases result : (Exact.ofFloat value).truncate? with
  | none =>
      have infinite : (Real.truncate value).isFinite = false := by
        rw [Exact.isFinite_eq, truncated, result]
        rfl
      simp only [infinite, Bool.not_false, Bool.true_or, if_true]
  | some whole =>
      rw [result, Option.map_some] at truncated
      have finite : (Real.truncate value).isFinite = true := by
        rw [Exact.isFinite_eq, truncated]
        rfl
      have below : Real.truncate value < Float.ofInt least ↔ whole < least := by
        rw [Exact.lt_iff truncated bound, Int.cast_lt]
      have above : -Float.ofInt least ≤ Real.truncate value ↔
          greatest < whole := by
        rw [Exact.le_iff opposite truncated, Int.cast_le, Int.add_one_le_iff]
      have refused : (!(Real.truncate value).isFinite ||
          Real.truncate value < Float.ofInt least ||
          -Float.ofInt least ≤ Real.truncate value) = true ↔
            ¬ (least ≤ whole ∧ whole ≤ greatest) := by
        simp only [finite, Bool.not_true, Bool.false_or, Bool.or_eq_true,
          decide_eq_true_eq, below, above]
        omega
      by_cases within : least ≤ whole ∧ whole ≤ greatest
      · rw [if_neg (refused.not.mpr (not_not.mpr within)),
          Exact.saturate_eq truncated within.1 within.2]
        exact (if_pos within).symm
      · rw [if_pos (refused.mpr within)]
        exact (if_neg within).symm

/-- The value is finite, and what it is without its fraction is a whole number
of so many bits. -/
def TruncatesTo (width : Nat) (value : Float) (whole : Int) : Prop :=
  ∃ number : ℚ, (Exact.ofFloat value).toRat? = some number ∧
    towardZero number = whole ∧
    -2 ^ (width - 1) ≤ whole ∧ whole ≤ 2 ^ (width - 1) - 1

theorem truncatesTo_iff {width : Nat} {value : Float} {whole : Int} :
    TruncatesTo width value whole ↔
      (Exact.ofFloat value).truncate? = some whole ∧
        -2 ^ (width - 1) ≤ whole ∧ whole ≤ 2 ^ (width - 1) - 1 := by
  rw [Exact.truncate?_eq, Option.map_eq_some_iff]
  constructor
  · rintro ⟨number, isNumber, truncated, within⟩
    exact ⟨⟨number, isNumber, truncated⟩, within⟩
  · rintro ⟨⟨number, isNumber, truncated⟩, within⟩
    exact ⟨number, isNumber, truncated, within⟩

variable {α : Type} [Number α] {width : Nat} {toInt : α → Int}

/-- The outcome is the value without its fraction, or a refusal of the value if
that is out of range or there is none. -/
structure Converts (width : Nat) (toInt : α → Int) (value : Float)
    (outcome : Except EvalError α) : Prop where
  eq_ok_iff : ∀ result,
    outcome = .ok result ↔ TruncatesTo width value (toInt result)
  exists_ok : ∀ whole, TruncatesTo width value whole →
    ∃ result, toInt result = whole ∧ outcome = .ok result
  eq_error : (∀ whole, ¬ TruncatesTo width value whole) →
    outcome = .error (.notRepresentable value (name α))

/-- Every value is converted to a whole number of so many bits or refused, and
of an evaluation the last value only. -/
structure Truncates (α : Type) [Number α] (width : Nat)
    (toInt : α → Int) : Prop where
  ofReal : ∀ value, Converts width toInt value (Number.ofReal value)
  evaluate_of_error : ∀ (calculator : Calculator) text error,
    (calculator.evaluate text : Logged (Except CalcError Float)).value =
      .error error →
    (calculator.evaluate text : Logged (Except CalcError α)).value =
      .error error
  evaluate_of_ok : ∀ (calculator : Calculator) text value,
    (calculator.evaluate text : Logged (Except CalcError Float)).value =
      .ok value →
    ∃ outcome, Converts width toInt value outcome ∧
      (calculator.evaluate text : Logged (Except CalcError α)).value =
        outcome.mapError .eval

theorem truncatesTo_unique {value : Float} {first second : Int}
    (isFirst : TruncatesTo width value first)
    (isSecond : TruncatesTo width value second) : first = second := by
  have same := (truncatesTo_iff.mp isFirst).1
  rw [(truncatesTo_iff.mp isSecond).1] at same
  exact (Option.some.inj same).symm

/-- An outcome that is the right one in both cases converts the value. -/
theorem Converts.of_cases {value : Float} {outcome : Except EvalError α}
    (injective : Function.Injective toInt)
    (cases : (∃ result, TruncatesTo width value (toInt result) ∧
        outcome = .ok result) ∨
      ((∀ whole, ¬ TruncatesTo width value whole) ∧
        outcome = .error (.notRepresentable value (name α)))) :
    Converts width toInt value outcome := by
  rcases cases with ⟨result, truncates, rfl⟩ | ⟨none, rfl⟩
  · refine ⟨?_, ?_, fun none => absurd truncates (none _)⟩
    · intro other
      constructor
      · rintro ⟨⟩
        exact truncates
      · intro truncates'
        rw [injective (truncatesTo_unique truncates truncates')]
    · intro whole truncates'
      exact ⟨result, truncatesTo_unique truncates truncates', rfl⟩
  · refine ⟨?_, fun whole truncates => absurd truncates (none whole),
      fun _ => rfl⟩
    intro other
    exact ⟨nofun, fun truncates => absurd truncates (none _)⟩

/-- Every value is converted or refused by a kind whose least number is a floating
number, as is the opposite of it. -/
theorem converts_truncateWithin {ofInt : Int → α}
    (bound : (Exact.ofFloat (Float.ofInt least)).toRat? = some (least : ℚ))
    (opposite : (Exact.ofFloat (-Float.ofInt least)).toRat? =
      some ((greatest + 1 : Int) : ℚ))
    (least_eq : least = -2 ^ (width - 1))
    (greatest_eq : greatest = 2 ^ (width - 1) - 1)
    (injective : Function.Injective toInt)
    (toInt_ofInt : ∀ whole, least ≤ whole → whole ≤ greatest →
      toInt (ofInt whole) = whole) (value : Float) :
    Converts width toInt value
      ((truncateWithin (name α) least greatest value).map ofInt) := by
  apply Converts.of_cases injective
  have isTruncated (whole : Int) : TruncatesTo width value whole ↔
      (Exact.ofFloat value).truncate? = some whole ∧
        least ≤ whole ∧ whole ≤ greatest := by
    rw [truncatesTo_iff, least_eq, greatest_eq]
  rw [truncateWithin_eq _ value bound opposite]
  cases truncated : (Exact.ofFloat value).truncate? with
  | none =>
      refine .inr ⟨?_, rfl⟩
      intro whole truncates
      rw [isTruncated, truncated] at truncates
      cases truncates.1
  | some whole =>
      by_cases within : least ≤ whole ∧ whole ≤ greatest
      · refine .inl ⟨ofInt whole, ?_, ?_⟩
        · rw [toInt_ofInt whole within.1 within.2, isTruncated]
          exact ⟨truncated, within⟩
        · simp only [if_pos within]
          rfl
      · refine .inr ⟨?_, ?_⟩
        · intro other truncates
          rw [isTruncated, truncated] at truncates
          obtain ⟨same, within'⟩ := truncates
          cases same
          exact within within'
        · simp only [if_neg within]
          rfl

/-- Every kind of number is converted from the value in 64 bits. -/
theorem value_evaluate_eq_bind (calculator : Calculator) (text : String) :
    (calculator.evaluate text : Logged (Except CalcError α)).value =
      (calculator.evaluate text : Logged (Except CalcError Float)).value >>=
        fun value => (ofReal value).mapError .eval := by
  rw [Calculator.value_evaluate, Calculator.value_evaluate]
  cases calculator.parse text with
  | error error => rfl
  | ok expression =>
      simp only [Calculator.evaluateExpression]
      cases expression.evaluate calculator.table with
      | error error => rfl
      | ok value => rfl

theorem truncates_of_ofReal
    (converts : ∀ value,
      Converts width toInt value (ofReal value : Except EvalError α)) :
    Truncates α width toInt where
  ofReal := converts
  evaluate_of_error calculator text error failure := by
    rw [value_evaluate_eq_bind, failure]
    rfl
  evaluate_of_ok calculator text value success := by
    refine ⟨ofReal value, converts value, ?_⟩
    rw [value_evaluate_eq_bind, success]
    rfl

/-- Calculators for whole numbers of 64 and of 32 bits give the exact value
without its fraction, for every value that has one in range, and refuse all
others.  An evaluation that fails in floating numbers fails in the same way. -/
theorem truncates_of_64_and_32_bits :
    Truncates Int64 64 Int64.toInt ∧ Truncates Int32 32 Int32.toInt := by
  constructor
  · have bound : Exact.ofFloat (Float.ofInt Int64.minValue.toInt) =
        .finite true (2 ^ 52) 11 := rfl
    have opposite : Exact.ofFloat (-Float.ofInt Int64.minValue.toInt) =
        .finite false (2 ^ 52) 11 := rfl
    have least : Int64.minValue.toInt = -2 ^ 63 := rfl
    have greatest : Int64.maxValue.toInt = 2 ^ 63 - 1 := rfl
    apply truncates_of_ofReal
    apply converts_truncateWithin
    · rw [bound, least]
      norm_num [Exact.toRat?, Exact.magnitude]
    · rw [opposite, greatest]
      norm_num [Exact.toRat?, Exact.magnitude]
    · exact least
    · exact greatest
    · exact fun _ _ => Int64.toInt_inj.mp
    · intro whole least_le le_greatest
      exact Int64.toInt_ofInt_of_le least_le (Int.lt_add_one_of_le le_greatest)
  · have bound : Exact.ofFloat (Float.ofInt Int32.minValue.toInt) =
        .finite true (2 ^ 52) (-21) := rfl
    have opposite : Exact.ofFloat (-Float.ofInt Int32.minValue.toInt) =
        .finite false (2 ^ 52) (-21) := rfl
    have least : Int32.minValue.toInt = -2 ^ 31 := rfl
    have greatest : Int32.maxValue.toInt = 2 ^ 31 - 1 := rfl
    apply truncates_of_ofReal
    apply converts_truncateWithin
    · rw [bound, least]
      norm_num [Exact.toRat?, Exact.magnitude]
    · rw [opposite, greatest]
      norm_num [Exact.toRat?, Exact.magnitude]
    · exact least
    · exact greatest
    · exact fun _ _ => Int32.toInt_inj.mp
    · intro whole least_le le_greatest
      exact Int32.toInt_ofInt_of_le least_le (Int.lt_add_one_of_le le_greatest)

example : (ofReal (-2147483648.5) : Except EvalError Int32) =
    .ok Int32.minValue := by decide +kernel

end Number

end Reckoner
