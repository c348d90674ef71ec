/-!
# Texts measured in bytes

Positions in a text count the bytes of its UTF-8 form, while texts are read
character by character.  This module relates the two: the number of bytes a
list of characters takes, and the part of a text behind a byte position.
-/

namespace Reckoner.Text

/-- The number of bytes that the UTF-8 form of a text takes. -/
def byteLength : List Char → Nat
  | [] => 0
  | ch :: rest => ch.utf8Size + byteLength rest

/-- The text behind its first `count` bytes.  A character in the middle of
which `count` ends is dropped whole. -/
def dropBytes : List Char → Nat → List Char
  | [], _ => []
  | text@(_ :: _), 0 => text
  | ch :: rest, count + 1 => dropBytes rest (count + 1 - ch.utf8Size)

/-- The bytes of the UTF-8 form of a string. -/
def bytes (text : String) : List UInt8 :=
  text.toByteArray.data.toList

@[simp] theorem byteLength_append (front back : List Char) :
    byteLength (front ++ back) = byteLength front + byteLength back := by
  induction front with
  | nil => simp [byteLength]
  | cons ch rest inductionHypothesis =>
      simp only [List.cons_append, byteLength, inductionHypothesis]
      omega

/-- A character takes at least one byte. -/
theorem length_le_byteLength (text : List Char) :
    text.length ≤ byteLength text := by
  induction text with
  | nil => exact Nat.le_refl 0
  | cons ch rest inductionHypothesis =>
      have positive := ch.utf8Size_pos
      simp only [List.length_cons, byteLength]
      omega

@[simp] theorem dropBytes_zero (text : List Char) :
    dropBytes text 0 = text := by
  cases text <;> rfl

/-- What stands behind the bytes of `front` in `front ++ back` is `back`. -/
@[simp] theorem dropBytes_byteLength_append (front back : List Char) :
    dropBytes (front ++ back) (byteLength front) = back := by
  induction front with
  | nil => simp [byteLength]
  | cons ch rest inductionHypothesis =>
      have positive := ch.utf8Size_pos
      obtain ⟨count, equality⟩ :
          ∃ count, ch.utf8Size + byteLength rest = count + 1 :=
        ⟨ch.utf8Size + byteLength rest - 1, by omega⟩
      have remainder : count + 1 - ch.utf8Size = byteLength rest := by omega
      simp only [List.cons_append, byteLength, equality, dropBytes, remainder,
        inductionHypothesis]

theorem dropBytes_suffix (text : List Char) (count : Nat) :
    dropBytes text count <:+ text := by
  fun_induction dropBytes text count with
  | case1 => exact List.suffix_refl _
  | case2 => exact List.suffix_refl _
  | case3 ch rest count inductionHypothesis =>
      exact inductionHypothesis.trans (List.suffix_cons ch rest)

/-- Different strings have different bytes. -/
theorem bytes_inj {first second : String} :
    bytes first = bytes second ↔ first = second := by
  constructor
  · intro equality
    apply String.toByteArray_inj.mp
    apply ByteArray.ext
    exact Array.toList_inj.mp equality
  · rintro rfl
    rfl

@[simp] theorem length_bytes (text : String) :
    (bytes text).length = text.utf8ByteSize := rfl

/-- Both measures of a string agree. -/
theorem utf8ByteSize_eq_byteLength (text : String) :
    text.utf8ByteSize = byteLength text.toList := by
  have measured (characters : List Char) :
      (String.ofList characters).utf8ByteSize = byteLength characters := by
    induction characters with
    | nil => rfl
    | cons ch rest inductionHypothesis =>
        rw [String.ofList_cons, String.utf8ByteSize_append,
          String.utf8ByteSize_singleton, inductionHypothesis, byteLength]
  simpa using measured text.toList

end Reckoner.Text
