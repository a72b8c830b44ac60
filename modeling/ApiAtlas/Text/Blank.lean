import ApiAtlas.Text.Range

/-!
# Blank characters

**Definitions.** A blank is a space, a tab, a line break or another separator: the characters with
the bidirectional class of white space, of a paragraph or of a segment separator, or in the
category of space separators.  `strip` removes them at both ends of a text.  The zero-width
space is not blank.
-/

namespace ApiAtlas

namespace Text

/-- The code points of the blank characters. -/
def blankRanges : Ranges :=
  [(0x9, 0xD), (0x1C, 0x20), (0x85, 0x85), (0xA0, 0xA0), (0x1680, 0x1680), (0x2000, 0x200A),
   (0x2028, 0x2029), (0x202F, 0x202F), (0x205F, 0x205F), (0x3000, 0x3000)]

/-- Whether a character is blank. -/
def isBlank (c : Char) : Bool :=
  blankRanges.has c.toNat

/-- Whether a character is blank and may stand around a number: the four separators of the basic
set may not. -/
def isMargin (c : Char) : Bool :=
  isBlank c && !(0x1C ≤ c.toNat && c.toNat < 0x20)

/-- The text without the blanks at both ends. -/
def strip (t : Text) : Text :=
  t.trim isBlank

/-- The text without the blanks at its end. -/
def stripEnd (t : Text) : Text :=
  t.trimEnd isBlank

end Text

end ApiAtlas
