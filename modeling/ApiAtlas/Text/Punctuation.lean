import ApiAtlas.Text.Blank
import ApiAtlas.Text.Word

/-!
# Punctuation

**Definitions.** A mark is a character that is neither blank nor a letter or digit; accents that
stand alone and joiners are marks too.  The marks of the basic set are all of its visible
characters but the letters and digits.
-/

namespace ApiAtlas

namespace Text

/-- Whether a character is a mark. -/
def isMark (c : Char) : Bool :=
  !isBlank c && (!isWord c || c == '_')

/-- Whether a character is a mark of the basic set. -/
def isBasicMark (c : Char) : Bool :=
  '!' ≤ c && c ≤ '~' && !c.isAlphanum

end Text

end ApiAtlas
