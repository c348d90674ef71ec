/-!
# Blank characters

Blanks separate tokens and carry no meaning of their own.  They are exactly
the characters with the Unicode property `White_Space`.
-/

namespace Reckoner.Text

/-- The code points with the property `White_Space`, as closed ranges. -/
def blankRanges : List (Nat × Nat) :=
  [(0x9, 0xD), (0x20, 0x20), (0x85, 0x85), (0xA0, 0xA0), (0x1680, 0x1680),
   (0x2000, 0x200A), (0x2028, 0x2029), (0x202F, 0x202F), (0x205F, 0x205F),
   (0x3000, 0x3000)]

/-- Whether a character is blank. -/
def isBlank (ch : Char) : Bool :=
  blankRanges.any fun range => range.1 ≤ ch.toNat && ch.toNat ≤ range.2

/-- The blanks one by one. -/
theorem isBlank_iff {ch : Char} :
    isBlank ch = true ↔ ch ∈
      ['\t', '\n', '\x0b', '\x0c', '\r', ' ', '\u0085', '\u00a0', '\u1680',
       '\u2000', '\u2001', '\u2002', '\u2003', '\u2004', '\u2005', '\u2006',
       '\u2007', '\u2008', '\u2009', '\u200a', '\u2028', '\u2029', '\u202f',
       '\u205f', '\u3000'] := by
  simp only [isBlank, blankRanges, List.any_cons, List.any_nil, Bool.or_false,
    Bool.or_eq_true, Bool.and_eq_true, decide_eq_true_eq, List.mem_cons,
    List.not_mem_nil, or_false, ← Char.toNat_inj, Char.reduceToNat]
  omega

/-- No ASCII digit is blank. -/
theorem isBlank_eq_false_of_isDigit {ch : Char}
    (digit : ch.isDigit = true) : isBlank ch = false := by
  simp only [Char.isDigit, ge_iff_le, UInt32.le_iff_toNat_le, Bool.and_eq_true,
    decide_eq_true_eq] at digit
  have low : 48 ≤ ch.toNat := digit.1
  have high : ch.toNat ≤ 57 := digit.2
  simp only [isBlank, blankRanges, List.any_cons, List.any_nil,
    Bool.or_eq_false_iff, Bool.and_eq_false_iff, decide_eq_false_iff_not,
    and_true]
  omega

end Reckoner.Text
