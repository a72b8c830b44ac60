import ApiAtlas.Payload.Json
import ApiAtlas.Text.Blank

/-!
# Numbers in YAML documents

**Input.** A text that is written like a number, or that a tag calls one.

**Definitions.** `isInt` and `isFloat` tell whether a plain text is a number: decimal, binary, octal,
hexadecimal or sexagesimal, with underscores anywhere between its digits.  `intOf` and `floatOf`
read a number and are more tolerant: there may be blanks around it, further signs, and digits of
any script.
-/

namespace ApiAtlas

namespace Yaml

section Shapes

/-- A text without its sign, and whether the sign was a minus. -/
def unsigned : Text → Bool × Text
  | '-' :: t => (true, t)
  | '+' :: t => (false, t)
  | t => (false, t)

/-- Whether a character is a digit or an underscore. -/
def isDigitLike (c : Char) : Bool :=
  c.isDigit || c == '_'

/-- Whether a text is a digit and then digits or underscores. -/
def isDigits : Text → Bool
  | [] => false
  | c :: t => c.isDigit && t.all isDigitLike

/-- Whether a text is one digit, or two of which the first is at most five. -/
def isSixtieth : Text → Bool
  | [c] => c.isDigit
  | [c, d] => '0' ≤ c && c ≤ '5' && d.isDigit
  | _ => false

/-- Whether a text is an integer. -/
def isInt (t : Text) : Bool :=
  let u := (unsigned t).2
  match u with
  | '0' :: 'b' :: r => !r.isEmpty && r.all fun c => c == '0' || c == '1' || c == '_'
  | '0' :: 'x' :: r => !r.isEmpty && r.all fun c => (Text.hexValue? c).isSome || c == '_'
  | '0' :: r => r.all fun c => ('0' ≤ c && c ≤ '7') || c == '_'
  | _ =>
    match u.pieces ':' with
    | p :: ps => isDigits p && ps.all isSixtieth
    | [] => false

/-- Whether a text is empty or an exponent with its sign. -/
def isExponent : Text → Bool
  | [] => true
  | e :: s :: ds =>
    (e == 'e' || e == 'E') && (s == '-' || s == '+') && !ds.isEmpty && ds.all Char.isDigit
  | _ => false

/-- Whether a text is a number with a point. -/
def isFloat (t : Text) : Bool :=
  let u := (unsigned t).2
  let afterPoint (r : Text) : Bool := isExponent (r.dropWhile isDigitLike)
  let point : Bool :=
    match u.span isDigitLike with
    | (w, '.' :: r) => isDigits w && afterPoint r
    | _ => false
  let bare : Bool :=
    match t with
    | '.' :: d :: r => d.isDigit && afterPoint r
    | _ => false
  let sixties : Bool :=
    match u.pieces ':' with
    | p :: q :: ps =>
      match (q :: ps).getLast? with
      | some l =>
        match l.span Char.isDigit with
        | (w, '.' :: r) =>
          isDigits p && (q :: ps).dropLast.all isSixtieth && isSixtieth w && r.all isDigitLike
        | _ => false
      | none => false
    | _ => false
  point || bare || sixties || [".inf".toList, ".Inf".toList, ".INF".toList].contains u ||
    [".nan".toList, ".NaN".toList, ".NAN".toList].contains t

end Shapes

section Numerals

/-- The text with the digits of all scripts in their basic form. -/
def basicDigits (t : Text) : Text :=
  t.map fun c => ((Text.digitValue? c).map fun d => Char.ofNat ('0'.toNat + d)).getD c

/-- The text without the letters that announce a base. -/
def dropBaseMark (base : Nat) : Text → Text
  | '0' :: c :: t =>
    if (base == 2 && (c == 'b' || c == 'B')) || (base == 8 && (c == 'o' || c == 'O')) ||
        (base == 16 && (c == 'x' || c == 'X')) then t
    else '0' :: c :: t
  | t => t

/-- The integer of a text in a base.  In decimal the number of digits is limited. -/
def numeral (base : Nat) (t : Text) : Except Defect Int :=
  let (negative, u) := unsigned (basicDigits (t.trim Text.isMargin))
  let u := dropBaseMark base u
  match Text.numeral? base u with
  | none => .error .noSuchValue
  | some n =>
    if base == 10 && Payload.maxDigits < u.length then .error .noSuchValue
    else .ok (if negative then -(n : Int) else n)

/-- The integer that a text names. -/
def intOf (t : Text) : Except Defect Int :=
  let u := t.filter (· != '_')
  let (negative, v) := unsigned u
  let size : Except Defect Int :=
    match v with
    | [] => .error .emptyNumber
    | ['0'] => .ok 0
    | '0' :: 'b' :: r => numeral 2 r
    | '0' :: 'x' :: r => numeral 16 r
    | '0' :: _ => numeral 8 v
    | _ => ((v.pieces ':').mapM (numeral 10)).map (·.foldl (fun n d => 60 * n + d) 0)
  size.map fun n => if negative then -n else n

/-- The number of a decimal with an optional point and exponent. -/
def decimal? (negative : Bool) (t : Text) : Option Double :=
  let (whole, r) := t.span Char.isDigit
  let (fraction, r) :=
    match r with
    | '.' :: r => r.span Char.isDigit
    | r => ([], r)
  let digits := whole ++ fraction
  let exponent : Option Int :=
    match r with
    | [] => some 0
    | e :: r =>
      if e == 'e' then
        let (negative, ds) := unsigned r
        if ds.all Char.isDigit then
          (Text.numeral? 10 ds).map fun n => if negative then -(n : Int) else n
        else none
      else none
  if digits.isEmpty then none
  else exponent.map fun e => .ofDecimal negative (Json.natOf digits) (e - fraction.length)

/-- The infinite number of a sign. -/
def infinite (negative : Bool) : Double :=
  .ofFloat (if negative then -1.0 / 0.0 else 1.0 / 0.0)

/-- The value that is no number. -/
def notNumber : Double :=
  .ofFloat (0.0 / 0.0)

/-- The number of a text in lower case, which may also be a word for one. -/
def float (t : Text) : Except Defect Double :=
  let (negative, u) := unsigned (basicDigits (t.trim Text.isMargin))
  if u == "inf".toList || u == "infinity".toList then .ok (infinite negative)
  else if u == "nan".toList then .ok notNumber
  else (decimal? negative u).elim (.error .noSuchValue) .ok

/-- The sum of sixtieth parts, first part largest. -/
def sixtyfold (parts : List Double) : Double :=
  let (sum, _) := parts.reverse.foldl
    (fun (sum, base) part => (sum + part.toFloat * base, base * 60.0)) ((0.0 : Float), (1.0 : Float))
  .ofFloat sum

/-- The number with a fraction that a text names. -/
def floatOf (t : Text) : Except Defect Double :=
  let u := (t.filter (· != '_')).map Char.toLower
  let (negative, v) := unsigned u
  let size : Except Defect Double :=
    if u.isEmpty then .error .emptyNumber
    else if v == ".inf".toList then .ok (infinite false)
    else if v == ".nan".toList then .ok notNumber
    else
      match v.pieces ':' with
      | [p] => float p
      | ps => (ps.mapM float).map sixtyfold
  size.map fun x => if negative then .ofFloat (-x.toFloat) else x

end Numerals

end Yaml

end ApiAtlas
