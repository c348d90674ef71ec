import Mathlib.Data.List.TakeWhile
import Reckoner.Decimal.Literal
import Reckoner.Proofs.Lexemes

/-!
# The values of numbers

A number in a text is a digit with any run of digits and dots behind it.  It
denotes a value exactly if there is at most one dot in it.  A whole number that
is written in digits denotes that number (`Decimal.read?_toString`).
-/

namespace Reckoner

theorem Token.isDigit_or_eq_dot {ch : Char}
    (continues : continuesNumber ch = true) : ch.isDigit = true ∨ ch = '.' := by
  simpa [continuesNumber] using continues

namespace Decimal

variable {text rest : List Char} {ch : Char}

theorem count_dot_dropWhile (text : List Char) :
    (text.dropWhile Char.isDigit).count '.' = text.count '.' := by
  induction text with
  | nil => rfl
  | cons ch rest inductionHypothesis =>
      cases digit : ch.isDigit with
      | true =>
          have apart : ch ≠ '.' := by
            rintro rfl
            cases digit
          rw [List.dropWhile_cons_of_pos digit, inductionHypothesis,
            List.count_cons_of_ne apart]
      | false => rw [List.dropWhile_cons_of_neg (by simp [digit])]

/-- Behind the first digits of a number is its end or a dot. -/
theorem dropWhile_isDigit_cases
    (continues : ∀ ch ∈ text, Token.continuesNumber ch = true) :
    (text.dropWhile Char.isDigit = [] ∧ text.count '.' = 0) ∨
      ∃ more, text.dropWhile Char.isDigit = '.' :: more ∧
        text.count '.' = more.count '.' + 1 ∧
        ∀ ch ∈ more, Token.continuesNumber ch = true := by
  have dots := count_dot_dropWhile text
  have inside := (List.dropWhile_sublist Char.isDigit (l := text)).subset
  cases behind : text.dropWhile Char.isDigit with
  | nil =>
      rw [behind] at dots
      exact .inl ⟨rfl, dots.symm⟩
  | cons ch more =>
      rw [behind] at dots inside
      have notDigit := List.head?_dropWhile_not Char.isDigit text
      rw [behind] at notDigit
      rcases Token.isDigit_or_eq_dot (continues ch (inside List.mem_cons_self))
        with digit | rfl
      · exact absurd digit (by simpa using notDigit)
      · rw [List.count_cons_self] at dots
        exact .inr ⟨more, rfl, dots.symm, fun other member =>
          continues other (inside (List.mem_cons_of_mem _ member))⟩

theorem readDigits?_isSome_iff (digit : ch.isDigit = true)
    (continues : ∀ other ∈ rest, Token.continuesNumber other = true) :
    (readDigits? (ch :: rest)).isSome ↔ (ch :: rest).count '.' ≤ 1 := by
  have starts : (ch :: rest).takeWhile Char.isDigit ≠ [] := by
    rw [List.takeWhile_cons_of_pos digit]
    exact List.cons_ne_nil _ _
  have allContinue : ∀ other ∈ ch :: rest,
      Token.continuesNumber other = true := by
    intro other member
    rcases List.mem_cons.mp member with rfl | tail
    · simp [Token.continuesNumber, digit]
    · exact continues other tail
  rcases dropWhile_isDigit_cases allContinue with
    ⟨ends, none⟩ | ⟨more, dot, count, moreContinue⟩
  · rw [none]
    simp [readDigits?, ends, starts, readExponent?]
  · rw [count]
    rcases dropWhile_isDigit_cases moreContinue with
      ⟨ends, none⟩ | ⟨others, second, moreCount, _⟩
    · simp [readDigits?, dot, ends, starts, readExponent?, none]
    · simp [readDigits?, dot, second, starts, readExponent?, moreCount]

theorem toLower_eq_of_isDigit (digit : ch.isDigit = true) :
    ch.toLower = ch := by
  simp only [Char.isDigit, ge_iff_le, UInt32.le_iff_toNat_le, Bool.and_eq_true,
    decide_eq_true_eq] at digit
  have high : ch.val.toNat ≤ 57 := digit.2
  apply dif_neg
  rintro ⟨upper, _⟩
  have low : 65 ≤ ch.val.toNat := UInt32.le_iff_toNat_le.mp upper
  omega

/-- The names of infinity and of no number start with letters. -/
theorem readName?_of_isDigit (digit : ch.isDigit = true) (rest : List Char) :
    readName? (ch :: rest) = none := by
  have apart {name : String} {first : Char} {tail : List Char}
      (characters : name.toList = first :: tail)
      (letter : first.isDigit = false) :
      String.ofList ((ch :: rest).map Char.toLower) ≠ name := by
    rintro rfl
    rw [String.toList_ofList, List.map_cons, toLower_eq_of_isDigit digit]
      at characters
    rw [(List.cons.inj characters).1, letter] at digit
    cases digit
  simp only [readName?]
  rw [if_neg, if_neg]
  · intro same
    exact apart rfl rfl same
  · rintro (same | same)
    · exact apart rfl rfl same
    · exact apart rfl rfl same

/-- A text with a digit in front has no sign and is no name. -/
theorem read?_of_isDigit {text : String} (characters : text.toList = ch :: rest)
    (digit : ch.isDigit = true) : read? text = readDigits? (ch :: rest) := by
  have unsigned : read? text = readUnsigned? (ch :: rest) := by
    unfold read?
    rw [characters]
    split
    · rename_i equality
      cases equality
      cases digit
    · rename_i equality
      cases equality
      cases digit
    · rfl
  rw [unsigned, readUnsigned?, readName?_of_isDigit digit, Option.or_none]

/-- A number has a value exactly if it has at most one dot. -/
theorem read?_isSome_iff {text : String} (number : Token.IsNumber text) :
    (read? text).isSome ↔ text.toList.count '.' ≤ 1 := by
  obtain ⟨digit, rest, characters, isDigit, continues⟩ := number
  rw [read?_of_isDigit characters isDigit, characters]
  exact readDigits?_isSome_iff isDigit continues

theorem ofDigits_dropWhile (digits : List Char) :
    ofDigits (digits.dropWhile (· = '0')) = ofDigits digits := by
  induction digits with
  | nil => rfl
  | cons digit digits inductionHypothesis =>
      by_cases zero : digit = '0'
      · rw [List.dropWhile_cons_of_pos (by simp [zero]), inductionHypothesis,
          zero]
        rfl
      · rw [List.dropWhile_cons_of_neg (by simp [zero])]

/-- Digits without a point denote their number, with zeros in front or
without. -/
theorem nearest_length {digits : List Char} (short : digits.length ≤ 400) :
    nearest digits digits.length = Float.ofNat (ofDigits digits) := by
  have value := ofDigits_dropWhile digits
  simp only [nearest]
  by_cases zero : digits.dropWhile (· = '0') = []
  · rw [zero] at value
    rw [if_pos (.inl zero), ← value]
    rfl
  · have leading : ¬ ((digits.length : Int) -
        (digits.length - (digits.dropWhile (· = '0')).length : Nat) <
          -magnitudeLimit) := by
      simp only [magnitudeLimit]
      omega
    have finite : ¬ magnitudeLimit < (digits.length : Int) -
        (digits.length - (digits.dropWhile (· = '0')).length : Nat) := by
      simp only [magnitudeLimit]
      omega
    rw [if_neg (not_or_intro zero leading), if_neg finite, value, Int.sub_self]
    rfl

/-- A number that is written in digits denotes that number. -/
theorem read?_toString {number : Nat}
    (short : (toString number).length ≤ 400) :
    read? (toString number) = some (Float.ofNat number) := by
  have digits : ∀ ch ∈ Nat.toDigits 10 number, ch.isDigit = true :=
    fun ch member =>
      Nat.isDigit_of_mem_toDigits (by decide) (by decide) member
  have value : ofDigits (Nat.toDigits 10 number) = number :=
    Nat.ofDigitChars_ten_toDigits
  have characters : (toString number).toList = Nat.toDigits 10 number := by
    rw [Nat.toString_eq_ofList_toDigits, String.toList_ofList]
  obtain ⟨first, rest, written⟩ :=
    List.exists_cons_of_ne_nil (Nat.toDigits_ne_nil (n := number) (b := 10))
  rw [written] at characters digits value
  rw [← String.length_toList, characters] at short
  rw [read?_of_isDigit characters (digits first List.mem_cons_self)]
  have behind : (first :: rest).dropWhile Char.isDigit = [] :=
    List.dropWhile_eq_nil_iff.mpr digits
  have whole : (first :: rest).takeWhile Char.isDigit = first :: rest :=
    List.takeWhile_eq_self_iff.mpr digits
  have near := nearest_length short
  rw [value] at near
  simp only [readDigits?, behind, whole, readExponent?, List.append_nil,
    Option.map_some, Int.add_zero, near]
  rfl

end Decimal

end Reckoner
