import ApiAtlas.Markdown.Escape

/-!
# Addresses that are safe to follow

**Input.** The address of a link.

**Algorithm.** The address is taken as a browser takes it: references and percent signs are
resolved, as often as they occur inside each other, and spaces and control characters do not count.
What stands before the first colon is a scheme, unless there is a slash in it or the address begins
with a question mark or a number sign.

**Definitions.** An address is safe when it has no scheme, when its scheme is one of `safeSchemes`,
or when it holds a picture.  `orHarmless` puts a fixed address in place of one that is not safe.
-/

namespace ApiAtlas

namespace Markdown

namespace Address

section Decoding

/-- The character of the basic set that two hexadecimal digits stand for. -/
def encodedChar? (a b : Char) : Option Char :=
  (Text.numeral? 16 [a, b]).bind fun n => if n < 128 then some (Char.ofNat n) else none

/-- The text with each percent sign and its two digits resolved, where they stand for a character of
the basic set. -/
def percentDecode : Text → Text
  | '%' :: a :: b :: t =>
    match encodedChar? a b with
    | some c => c :: percentDecode t
    | none => '%' :: percentDecode (a :: b :: t)
  | c :: t => c :: percentDecode t
  | [] => []

/-- The text with percent signs resolved until none can be; `budget` bounds the number of rounds. -/
def decodeFully : (budget : Nat) → Text → Text
  | 0, t => t
  | n + 1, t =>
    let u := percentDecode t
    if u.length = t.length then t else decodeFully n u

/-- The address as a browser takes it. -/
def plain (a : Text) : Text :=
  let t := resolve a
  ((decodeFully t.length t).filter fun c => !(c.toNat ≤ 32 || c.toNat == 127)).map Char.toLower

end Decoding

section Schemes

/-- The schemes of addresses that are safe to follow. -/
def safeSchemes : List Text :=
  ["http", "https", "mailto", "ftp", "ftps", "tel", "irc", "ircs"].map String.toList

/-- The beginnings of addresses with pictures inside, which are safe too. -/
def pictures : List Text :=
  ["data:image/gif;", "data:image/png;", "data:image/jpeg;", "data:image/webp;"].map String.toList

/-- The scheme of an address: what stands before its first colon, when there is no slash in it and
the address is no query or fragment. -/
def scheme? (a : Text) : Option Text :=
  match a.span fun c => !(c == ':' || c == '/') with
  | (s, ':' :: _) => if s.head?.any fun c => c == '?' || c == '#' then none else some s
  | _ => none

/-- Whether an address is safe to follow. -/
def isSafe (a : Text) : Bool :=
  let t := plain a
  (scheme? t).all safeSchemes.contains || pictures.any fun p => Text.beginsWith p t

/-- The address, when it is safe to follow, and a harmless one otherwise. -/
def orHarmless (a : Text) : Text :=
  if isSafe a then a else "#harmful-link".toList

end Schemes

section Laws

/-- What replaces an unsafe address is safe itself. -/
theorem isSafe_orHarmless (a : Text) : isSafe (orHarmless a) = true := by
  unfold orHarmless
  split
  · assumption
  · decide +kernel

end Laws

end Address

end Markdown

end ApiAtlas
