import ApiAtlas.Text.Basic

/-!
# Numbers with a fraction

**Input.** A decimal as a payload writes it, rounded to the nearest 64-bit binary number.

**Definitions.** A `Double` is given by its bits.  A finite one is a sign and a number
`mantissa · 2 ^ exponent`; two decimals are the same `Double` when both lie in the same interval
around that number.  `shortest?` finds the decimal with the fewest digits in the interval, and
`shown` lays its digits out: positionally between `0.0001` and `10 ^ 16`, and otherwise with an
exponent of at least two digits.
-/

namespace ApiAtlas

/-- A 64-bit binary number. -/
structure Double where
  /-- Sign, exponent and fraction. -/
  bits : UInt64
deriving DecidableEq, Repr

namespace Double

section Defs

/-- The number of a floating-point value. -/
def ofFloat (x : Float) : Double :=
  ⟨x.toBits⟩

/-- The floating-point value of a number. -/
def toFloat (x : Double) : Float :=
  Float.ofBits x.bits

/-- The number nearest to `digits · 10 ^ exponent`, negated on demand.  Beyond 400 decimal places
in either direction every number is infinite or zero, so larger exponents need not be formed. -/
def ofDecimal (negative : Bool) (digits : Nat) (exponent : Int) : Double :=
  let size : Float :=
    match exponent with
    | .ofNat e => Float.ofScientific (digits * Nat.pow 10 (min e 400)) false 0
    | .negSucc e => Float.ofScientific digits true (min (e + 1) ((Text.ofNat digits).length + 400))
  ofFloat (if negative then -size else size)

/-- Whether the sign bit is set. -/
def negative (x : Double) : Bool :=
  x.bits.toNat / Nat.pow 2 63 == 1

/-- The eleven bits of the exponent. -/
def exponentBits (x : Double) : Nat :=
  x.bits.toNat / Nat.pow 2 52 % Nat.pow 2 11

/-- The fifty-two bits of the fraction. -/
def fractionBits (x : Double) : Nat :=
  x.bits.toNat % Nat.pow 2 52

/-- Whether the number is finite. -/
def isFinite (x : Double) : Bool :=
  x.exponentBits != 2047

/-- Whether the value is no number. -/
def isNaN (x : Double) : Bool :=
  x.exponentBits == 2047 && x.fractionBits != 0

/-- The mantissa of a finite number. -/
def mantissa (x : Double) : Nat :=
  if x.exponentBits = 0 then x.fractionBits else Nat.pow 2 52 + x.fractionBits

/-- The binary exponent of a finite number. -/
def exponent (x : Double) : Int :=
  (if x.exponentBits = 0 then 1 else x.exponentBits : Nat) - 1075

/-- Whether the number is zero, of either sign. -/
def isZero (x : Double) : Bool :=
  x.isFinite && x.mantissa == 0

/-- Whether the number equals an integer. -/
def equalsInt (x : Double) (n : Int) : Bool :=
  let m : Int := if x.negative then -(x.mantissa : Int) else x.mantissa
  x.isFinite &&
    match x.exponent with
    | .ofNat e => m * Nat.pow 2 e == n
    | .negSucc e => m == n * Nat.pow 2 (e + 1)

/-- The integer that the number is, when it is one. -/
def toInt? (x : Double) : Option Int :=
  let m : Int := if x.negative then -(x.mantissa : Int) else x.mantissa
  if x.isFinite then
    match x.exponent with
    | .ofNat e => some (m * Nat.pow 2 e)
    | .negSucc e =>
      let d : Int := Nat.pow 2 (e + 1)
      if Int.tmod m d = 0 then some (Int.tdiv m d) else none
  else none

/-- Whether two numbers are equal in size; a value that is no number equals none. -/
def equals (x y : Double) : Bool :=
  !x.isNaN && !y.isNaN && (x == y || (x.isZero && y.isZero))

/-- The position of the decimal point of `num / den`: the least `d` with `num / den < 10 ^ d`. -/
def pointOf (num den : Nat) : Int :=
  if den ≤ num then (Text.ofNat (num / den)).length
  else
    let gap := (Text.ofNat den).length - (Text.ofNat num).length
    if den ≤ num * Nat.pow 10 (gap - 1) then 2 - gap
    else if den ≤ num * Nat.pow 10 gap then 1 - gap
    else -(gap : Int)

/-- The powers `2 ^ two · 10 ^ ten` as a fraction. -/
def ratio (two ten : Int) : Nat × Nat :=
  (Nat.pow 2 two.toNat * Nat.pow 10 ten.toNat,
    Nat.pow 2 (-two).toNat * Nat.pow 10 (-ten).toNat)

/-- The decimal of `places` digits that lies in the interval of a finite number other than zero,
as its digits and the position of its point. -/
def withPlaces? (x : Double) (point : Int) (places : Nat) : Option (Nat × Int) :=
  let scale : Int := places - point
  let (num, den) := ratio (x.exponent - 2) scale
  let value := 4 * x.mantissa * num
  let low := (4 * x.mantissa - if x.fractionBits = 0 && 1 < x.exponentBits then 1 else 2) * num
  let high := (4 * x.mantissa + 2) * num
  let closed := x.mantissa % 2 = 0
  let inside (c : Nat) : Bool :=
    (low < c * den && c * den < high) || (closed && (low = c * den || c * den = high))
  let down := value / den
  let up := down + 1
  let pick :=
    if inside down && inside up then
      let below := value - down * den
      let above := up * den - value
      if below < above || (below = above && down % 2 = 0) then some down else some up
    else if inside down then some down
    else if inside up then some up
    else none
  pick.map fun c => (c, (Text.ofNat c).length - scale)

/-- The decimal with the fewest digits in the interval of a finite number other than zero. -/
def shortest? (x : Double) : Option (Nat × Int) :=
  let (num, den) := ratio x.exponent 0
  let point := pointOf (x.mantissa * num) den
  (List.range 18).drop 1 |>.findSome? (x.withPlaces? point)

/-- The digits without zeros at the end. -/
def significant (digits : Nat) : Text :=
  match (Text.ofNat digits).trimEnd (· == '0') with
  | [] => ['0']
  | t => t

/-- Digits with their decimal point at `point`, as numbers with a fraction are written. -/
def layOut (digits : Text) (point : Int) : Text :=
  if -4 < point && point ≤ 16 then
    if point ≤ 0 then "0.".toList ++ List.replicate (-point).toNat '0' ++ digits
    else
      let whole := digits.take point.toNat
      let fraction := digits.drop point.toNat
      whole ++ List.replicate (point.toNat - digits.length) '0' ++ '.' ::
        (if fraction.isEmpty then ['0'] else fraction)
  else
    let e := point - 1
    let size := Text.ofNat e.natAbs
    digits.take 1 ++ (if 1 < digits.length then '.' :: digits.drop 1 else []) ++ 'e' ::
      (if e < 0 then '-' else '+') :: (if size.length < 2 then '0' :: size else size)

/-- The number with the fewest digits that name it. -/
def shown (x : Double) : Text :=
  if x.isNaN then "nan".toList
  else
    (if x.negative then ['-'] else []) ++
      (if !x.isFinite then "inf".toList
      else if x.isZero then "0.0".toList
      else
        match x.shortest? with
        | some (digits, point) => layOut (significant digits) point
        | none => [])

end Defs

end Double

end ApiAtlas
