import ApiAtlas.Payload.Failure
import ApiAtlas.Payload.Value
import ApiAtlas.Text.Digit

/-!
# JSON documents

**Input.** The text of a document.

**Algorithm.** Recursive descent over the text; each value read leaves the rest of the text.  The
bound on the number of steps is the length of the text, since every step reads at least one
character.

**Definitions.** Beyond the standard, the words `NaN`, `Infinity` and `-Infinity` are numbers.
Only spaces, tabs and the two line breaks count as blank; control characters inside texts, zeros
before a number and a comma before a closing bracket are refused.
-/

namespace ApiAtlas

namespace Json

open Payload

section Defs

/-- The rest after the blanks in front. -/
def skip (r : Text) : Text :=
  r.dropWhile fun g => g == ' ' || g == '\t' || g == '\n' || g == '\r'

/-- The rest after a word that has to stand in front. -/
def after? : Text → Text → Option Text
  | [], r => some r
  | c :: w, d :: r => if c = d then after? w r else none
  | _ :: _, _ => none

/-- A unit of four hexadecimal digits and the rest. -/
def unit? : Text → Option (Nat × Text)
  | a :: b :: c :: d :: r => do
    let w ← Text.hexValue? a
    let x ← Text.hexValue? b
    let y ← Text.hexValue? c
    let z ← Text.hexValue? d
    return (((w * 16 + x) * 16 + y) * 16 + z, r)
  | _ => none

/-- The character that an escape of one letter stands for. -/
def escaped? : Char → Option Char
  | '"' => some '"'
  | '\\' => some '\\'
  | '/' => some '/'
  | 'b' => some '\x08'
  | 'f' => some '\x0c'
  | 'n' => some '\n'
  | 'r' => some '\r'
  | 't' => some '\t'
  | _ => none

/-- The character of an escaped unit: a first half takes the second half that follows it. -/
def unitChar (n : Nat) (r : Text) : Char × Text :=
  match r with
  | '\\' :: 'u' :: s =>
    match unit? s with
    | some (m, s) =>
      if Text.isFirstHalf n && Text.isSecondHalf m then
        (Text.ofCodePoint (Text.joinHalves n m), s)
      else (Text.ofCodePoint n, r)
    | none => (Text.ofCodePoint n, r)
  | _ => (Text.ofCodePoint n, r)

/-- The rest of a text after its opening quote, up to the closing quote. -/
def text? : Nat → Text → Option (Text × Text)
  | 0, _ => none
  | _ + 1, [] => none
  | n + 1, c :: r =>
    if c = '"' then some ([], r)
    else if c = '\\' then
      match r with
      | 'u' :: r => do
        let (u, r) ← unit? r
        let (g, r) := unitChar u r
        let (s, r) ← text? n r
        return (g :: s, r)
      | e :: r => do
        let e ← escaped? e
        let (s, r) ← text? n r
        return (e :: s, r)
      | [] => none
    else if c.toNat < 32 then none
    else (text? n r).map fun (s, r) => (c :: s, r)

/-- The digits in front of a text and the rest. -/
def digits (r : Text) : Text × Text :=
  r.span Char.isDigit

/-- The number of a list of digits. -/
def natOf (ds : Text) : Nat :=
  ds.foldl (fun n c => 10 * n + (c.toNat - '0'.toNat)) 0

/-- The digits after a point; without one nothing is read. -/
def fraction (r : Text) : Text × Text :=
  match r with
  | '.' :: s =>
    match digits s with
    | ([], _) => ([], r)
    | (ds, s) => (ds, s)
  | _ => ([], r)

/-- The sign and the digits of an exponent; a mark without digits is not read. -/
def exponent? (r : Text) : Option (Bool × Text × Text) :=
  let signed (s : Text) : Bool × Text :=
    match s with
    | '+' :: s => (false, s)
    | '-' :: s => (true, s)
    | s => (false, s)
  let read (s : Text) : Option (Bool × Text × Text) :=
    let (negative, s) := signed s
    match digits s with
    | ([], _) => none
    | (ds, s) => some (negative, ds, s)
  match r with
  | 'e' :: s => read s
  | 'E' :: s => read s
  | _ => none

/-- A number after its sign.  An integer may not have more digits than numbers can have. -/
def number (negative : Bool) (r : Text) : Except Failure (Value × Text) :=
  let whole : Text × Text :=
    match r with
    | '0' :: s => (['0'], s)
    | _ => digits r
  match whole with
  | ([], _) => .error .unreadable
  | (ds, r) =>
    let (fs, r) := fraction r
    match exponent? r with
    | some (negativeExponent, es, r) =>
      let e : Int := natOf es
      let e := (if negativeExponent then -e else e) - fs.length
      .ok (.double (.ofDecimal negative (natOf (ds ++ fs)) e), r)
    | none =>
      if !fs.isEmpty then .ok (.double (.ofDecimal negative (natOf (ds ++ fs)) (-fs.length)), r)
      else if maxDigits < ds.length then .error .noSuchValue
      else
        let n : Int := natOf ds
        .ok (.int (if negative then -n else n), r)

/-- The value that is no number. -/
def nan : Value :=
  .double (.ofFloat (0.0 / 0.0))

/-- The infinite value of a sign. -/
def infinity (negative : Bool) : Value :=
  .double (.ofFloat (if negative then -1.0 / 0.0 else 1.0 / 0.0))

/-- A value after the word that has to stand in front. -/
def word (w : String) (v : Value) (r : Text) : Except Failure (Value × Text) :=
  orUnreadable ((after? w.toList r).map fun r => (v, r))

/-- A value that is neither a text nor a collection. -/
def scalar (r : Text) : Except Failure (Value × Text) :=
  match r with
  | 'n' :: _ => word "null" .null r
  | 't' :: _ => word "true" (.bool true) r
  | 'f' :: _ => word "false" (.bool false) r
  | 'N' :: _ => word "NaN" nan r
  | 'I' :: _ => word "Infinity" (infinity false) r
  | '-' :: 'I' :: _ => word "-Infinity" (infinity true) r
  | '-' :: s => number true s
  | _ => number false r

/-- A text after its opening quote. -/
def text (r : Text) : Except Failure (Text × Text) :=
  orUnreadable (text? (r.length + 1) r)

mutual

/-- A value at the front of the text, and the rest. -/
def value : Nat → Text → Except Failure (Value × Text)
  | 0, _ => .error .unreadable
  | n + 1, r =>
    match r with
    | '"' :: s => (text s).map fun (t, s) => (.str t, s)
    | '[' :: s =>
      match skip s with
      | ']' :: s => .ok (.list [], s)
      | s => (items n s).map fun (vs, s) => (.list vs, s)
    | '\x7b' :: s =>
      match skip s with
      | '\x7d' :: s => .ok (.object [], s)
      | s => (entries n s).map fun (es, s) => (.object (Entries.ofList es), s)
    | r => scalar r

/-- The items of a list up to its closing bracket. -/
def items : Nat → Text → Except Failure (List Value × Text)
  | 0, _ => .error .unreadable
  | n + 1, r => do
    let (v, r) ← value n r
    match skip r with
    | ']' :: r => return ([v], r)
    | ',' :: r => do
      let (vs, r) ← items n (skip r)
      return (v :: vs, r)
    | _ => throw .unreadable

/-- The entries of an object up to its closing bracket. -/
def entries : Nat → Text → Except Failure (List (Value × Value) × Text)
  | 0, _ => .error .unreadable
  | n + 1, r =>
    match r with
    | '"' :: r => do
      let (k, r) ← text r
      match skip r with
      | ':' :: r => do
        let (v, r) ← value n (skip r)
        match skip r with
        | '\x7d' :: r => return ([(.str k, v)], r)
        | ',' :: r => do
          let (es, r) ← entries n (skip r)
          return ((.str k, v) :: es, r)
        | _ => throw .unreadable
      | _ => throw .unreadable
    | _ => .error .unreadable

end

/-- The value of a document: one value with nothing but blanks around it. -/
def parse (r : Text) : Except Failure Value :=
  match value (2 * r.length + 2) (skip r) with
  | .ok (v, rest) => if (skip rest).isEmpty then .ok v else .error .unreadable
  | .error e => .error e

/-- The value of a document given by its bytes, whose encoding is found out first. -/
def parseBytes (bytes : Bytes) : Except Failure Value :=
  let (encoding, rest) := Encoding.jsonEncoding bytes
  (orUnreadable (encoding.decode? true rest)).bind parse

end Defs

end Json

end ApiAtlas
