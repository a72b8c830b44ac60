import ApiAtlas.Text.Basic

/-!
# Halves of characters

**Input.** Code points as payloads name them.  A character beyond the first 65536 may be written as
two halves, and a payload may name one half without the other.

**Definitions.** A half that stands alone is kept in a text as a character of its own, from a
reserved block of private characters, U+10D800 to U+10DFFF.  `codePoint` gives back the number that
was named, by which texts are ordered and shown.  The characters of the block are not to be had for
themselves: a text that names one is read as if it named the half.

**Results.** A half is told from every other character by its number (`codePoint_injective`).
-/

namespace ApiAtlas

namespace Text

section Defs

/-- Whether a code point is that of the first half of a character. -/
def isFirstHalf (n : Nat) : Bool :=
  0xD800 ≤ n && n < 0xDC00

/-- Whether a code point is that of the second half of a character. -/
def isSecondHalf (n : Nat) : Bool :=
  0xDC00 ≤ n && n < 0xE000

/-- The code point of two halves. -/
def joinHalves (first second : Nat) : Nat :=
  0x10000 + (first - 0xD800) * 0x400 + (second - 0xDC00)

/-- The distance of the reserved block from the code points of halves. -/
def halfShift : Nat :=
  0x100000

/-- Whether a character stands for a half. -/
def isHalf (c : Char) : Bool :=
  0x10D800 ≤ c.toNat && c.toNat < 0x10E000

/-- The number that a character stands for. -/
def codePoint (c : Char) : Nat :=
  if isHalf c then c.toNat - halfShift else c.toNat

/-- The character for a code point, which may be that of a half. -/
def ofCodePoint (n : Nat) : Char :=
  if isFirstHalf n || isSecondHalf n then Char.ofNat (halfShift + n) else Char.ofNat n

end Defs

section Laws

/-- Characters with one number are the same. -/
theorem char_eq_of_toNat {a b : Char} (h : a.toNat = b.toNat) : a = b :=
  Char.ext (UInt32.toNat_inj.1 h)

/-- No character has the code point of a half. -/
theorem toNat_not_half (c : Char) : c.toNat < 0xD800 ∨ 0xDFFF < c.toNat := by
  rcases c.valid with h | ⟨h, _⟩
  · exact Or.inl h
  · exact Or.inr h

/-- Characters that stand for one number are the same. -/
theorem codePoint_injective {a b : Char} (h : codePoint a = codePoint b) : a = b := by
  apply char_eq_of_toNat
  have ha := toNat_not_half a
  have hb := toNat_not_half b
  simp only [codePoint, isHalf, halfShift, Bool.and_eq_true, decide_eq_true_eq] at h
  split at h <;> split at h <;> omega

end Laws

end Text

end ApiAtlas
