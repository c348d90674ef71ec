import Mathlib.Data.List.Basic
import Reckoner.Text.Quoted

/-!
# Reading quoted texts

A quoted text can be read back, so that two texts with one quoted form are the
same (`Text.quoted_injective`).  The reader knows the marks, the backslash and
what may follow it, but not which characters are plain.  A text of plain
characters stands between the marks as it is (`Text.quoted_of_plain`).
-/

namespace Reckoner.Text

/-- What the next character of a quoted text belongs to. -/
inductive Quoting where
  | text
  | escape
  /-- A code point in braces, as far as its digits have been read. -/
  | code (value : Nat)

/-- The value of a hexadecimal digit. -/
def hexValue (digit : Char) : Nat :=
  if digit.isDigit then digit.toNat - 48 else digit.toNat - 87

/-- The character that a short name behind the backslash stands for. -/
def named (name : Char) : Char :=
  if name = '0' then '\x00'
  else if name = 't' then '\t'
  else if name = 'r' then '\r'
  else if name = 'n' then '\n'
  else name

/-- The characters that are shown up to the closing mark, which comes last. -/
def shownBy? : Quoting → List Char → Option (List Char)
  | _, [] => none
  | .text, ch :: rest =>
      if ch = '"' then if rest = [] then some [] else none
      else if ch = '\\' then shownBy? .escape rest
      else (shownBy? .text rest).map (ch :: ·)
  | .escape, ch :: rest =>
      if ch = 'u' then shownBy? (.code 0) rest
      else (shownBy? .text rest).map (named ch :: ·)
  | .code value, ch :: rest =>
      if ch = '\x7b' then shownBy? (.code 0) rest
      else if ch = '\x7d' then
        (shownBy? .text rest).map (Char.ofNat value :: ·)
      else shownBy? (.code (16 * value + hexValue ch)) rest

/-- The text that a quoted text shows. -/
def unquoted? (quoted : String) : Option String :=
  match quoted.toList with
  | '"' :: rest => (shownBy? .text rest).map String.ofList
  | _ => none

theorem hexValue_digitChar {digit : Nat} (small : digit < 16) :
    hexValue digit.digitChar = digit ∧ digit.digitChar ≠ '\x7b' ∧
      digit.digitChar ≠ '\x7d' := by
  have all : ∀ digit : Fin 16, hexValue digit.val.digitChar = digit.val ∧
      digit.val.digitChar ≠ '\x7b' ∧ digit.val.digitChar ≠ '\x7d' := by
    decide
  exact all ⟨digit, small⟩

theorem shownBy?_digitChar {digit : Nat} (small : digit < 16) (value : Nat)
    (rest : List Char) :
    shownBy? (.code value) (digit.digitChar :: rest) =
      shownBy? (.code (16 * value + digit)) rest := by
  obtain ⟨value_eq, notOpen, notClosed⟩ := hexValue_digitChar small
  rw [shownBy?, if_neg notOpen, if_neg notClosed, value_eq]

/-- The digits of a number are read as that number. -/
theorem shownBy?_toDigits (number : Nat) (rest : List Char) :
    shownBy? (.code 0) (Nat.toDigits 16 number ++ rest) =
      shownBy? (.code number) rest := by
  induction number using Nat.strongRecOn generalizing rest with
  | ind number inductionHypothesis =>
      by_cases small : number < 16
      · rw [Nat.toDigits_of_lt_base small, List.singleton_append,
          shownBy?_digitChar small, Nat.mul_zero, Nat.zero_add]
      · have large := Nat.le_of_not_lt small
        have less : number / 16 < number := by omega
        rw [Nat.toDigits_of_base_le (by decide) large, List.append_assoc,
          inductionHypothesis _ less, List.singleton_append,
          shownBy?_digitChar (Nat.mod_lt _ (by decide)), Nat.div_add_mod]

/-- What shows a character is read as that character. -/
theorem shownBy?_escaped (ch : Char) (rest : List Char) :
    shownBy? .text (escaped '"' ch ++ rest) =
      (shownBy? .text rest).map (ch :: ·) := by
  by_cases short : ch = '\x00' ∨ ch = '\t' ∨ ch = '\r' ∨ ch = '\n' ∨
      ch = '\\' ∨ ch = '"'
  · rcases short with rfl | rfl | rfl | rfl | rfl | rfl
    all_goals rfl
  · simp only [not_or] at short
    obtain ⟨notNull, notTab, notReturn, notLine, notBackslash, notMark⟩ := short
    rw [escaped, if_neg notNull, if_neg notTab, if_neg notReturn,
      if_neg notLine, if_neg (not_or_intro notBackslash notMark)]
    by_cases plain : isPlain ch
    · rw [if_pos plain, List.singleton_append, shownBy?, if_neg notMark,
        if_neg notBackslash]
    · rw [if_neg plain]
      have code := shownBy?_toDigits ch.toNat ('\x7d' :: rest)
      have closed : shownBy? (.code ch.toNat) ('\x7d' :: rest) =
          (shownBy? .text rest).map (Char.ofNat ch.toNat :: ·) := rfl
      rw [closed, Char.ofNat_toNat] at code
      rw [← code, List.append_assoc, List.append_assoc]
      rfl

theorem shownBy?_flatMap_escaped (shown : List Char) :
    shownBy? .text (shown.flatMap (escaped '"') ++ ['"']) = some shown := by
  induction shown with
  | nil => rfl
  | cons ch shown inductionHypothesis =>
      rw [List.flatMap_cons, List.append_assoc, shownBy?_escaped,
        inductionHypothesis, Option.map_some]

/-- A quoted text can be read back. -/
theorem unquoted?_quoted (text : String) :
    unquoted? (quoted text) = some text := by
  have read := shownBy?_flatMap_escaped text.toList
  rw [unquoted?, quoted, String.toList_ofList]
  exact (congrArg (Option.map String.ofList) read).trans
    (congrArg some String.ofList_toList)

example : unquoted? "\"1\\t\\\"\\u\x7b200b\x7d\"" = some "1\t\"\u200b" := by
  decide

/-- Quoted texts that are equal show the same text. -/
theorem quoted_injective : Function.Injective quoted := by
  intro text other same
  have read := congrArg unquoted? same
  rw [unquoted?_quoted, unquoted?_quoted] at read
  exact Option.some.inj read

/-- A plain character that is neither the mark nor the backslash shows itself. -/
theorem escaped_of_plain {mark ch : Char} (plain : isPlain ch = true)
    (notMark : ch ≠ mark) (notBackslash : ch ≠ '\\') :
    escaped mark ch = [ch] := by
  have control : isPlain '\x00' = false ∧ isPlain '\t' = false ∧
      isPlain '\r' = false ∧ isPlain '\n' = false := by
    decide +kernel
  have apart {other : Char} (hidden : isPlain other = false) : ch ≠ other := by
    rintro rfl
    exact absurd plain (by rw [hidden]; decide)
  rw [escaped, if_neg (apart control.1), if_neg (apart control.2.1),
    if_neg (apart control.2.2.1), if_neg (apart control.2.2.2),
    if_neg (not_or_intro notBackslash notMark), if_pos plain]

/-- Plain characters stand between the marks as they are. -/
theorem quoted_of_plain {text : String}
    (plain : ∀ ch ∈ text.toList, isPlain ch = true ∧ ch ≠ '"' ∧ ch ≠ '\\') :
    quoted text = "\"" ++ text ++ "\"" := by
  have shown : text.toList.flatMap (escaped '"') = text.toList := by
    have same : ∀ ch ∈ text.toList, escaped '"' ch = [ch] := by
      intro ch member
      obtain ⟨visible, notMark, notBackslash⟩ := plain ch member
      exact escaped_of_plain visible notMark notBackslash
    rw [List.flatMap_congr same, List.flatMap_singleton']
  apply String.toList_inj.mp
  rw [quoted, shown, String.toList_ofList, String.toList_append,
    String.toList_append]
  rfl

end Reckoner.Text
