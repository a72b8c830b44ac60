import ApiAtlas.Text.Blank
import ApiAtlas.Text.Digit

/-!
# Integers in words

**Input.** A word that should name an integer.

**Definitions.** Blanks may stand around the digits and a sign before them, a fraction of zeros after
them, and single underscores between them.  Zeros in front may have underscores anywhere after
the first one.  Only the digits of the basic set count.
-/

namespace ApiAtlas

namespace Text

/-- Whether a text is digits with single underscores between them; `afterDigit` tells what came
before. -/
def isGrouped (afterDigit : Bool) : Text → Bool
  | [] => afterDigit
  | c :: t => if c = '_' then afterDigit && isGrouped false t else c.isDigit && isGrouped true t

/-- The number of digits with single underscores between them. -/
def grouped? (t : Text) : Option Nat :=
  if isGrouped false t then numeral? 10 (t.filter (· != '_')) else none

/-- The text before a fraction of zeros. -/
def dropZeroFraction (t : Text) : Text :=
  match t.span (· != '.') with
  | (w, _ :: zeros) => if zeros.all (· == '0') then w else t
  | _ => t

/-- The text without its zeros in front and the underscores among them; the last character stays. -/
def dropZeros (t : Text) : Text :=
  match t with
  | '0' :: r =>
    match r.dropWhile fun c => c == '0' || c == '_' with
    | [] => t.getLast?.toList
    | u => u
  | _ => t

/-- The integer that a word names. -/
def integer? (t : Text) : Option Int :=
  match dropZeroFraction (t.trim isMargin) with
  | '-' :: u => (grouped? u).map fun n => -(n : Int)
  | '+' :: u => (grouped? (dropZeros u)).map Int.ofNat
  | u => (grouped? (dropZeros u)).map Int.ofNat

end Text

end ApiAtlas
