import ApiAtlas.Payload.Encoding

/-!
# Bytes in base 64

**Input.** A text in which four characters stand for three bytes.

**Algorithm.** Characters outside the alphabet are passed over.  The characters of a group are read
one by one, each with what is left of the one before it; equals signs that fill up the last group
end the text, whatever follows.

**Definitions.** `Base64.decode?` gives the bytes; there are none when the last group is not filled
up.
-/

namespace ApiAtlas

namespace Base64

/-- The number of a character of the alphabet. -/
def digit? (c : Char) : Option Nat :=
  if 'A' ≤ c ∧ c ≤ 'Z' then some (c.toNat - 'A'.toNat)
  else if 'a' ≤ c ∧ c ≤ 'z' then some (c.toNat - 'a'.toNat + 26)
  else if '0' ≤ c ∧ c ≤ '9' then some (c.toNat - '0'.toNat + 52)
  else if c = '+' then some 62
  else if c = '/' then some 63
  else none

/-- The bytes from a place in a group of four characters on: `seen` characters of the group were
read, `fill` equals signs follow them, and `left` is the number of the last character. -/
def decodeFrom? (seen fill left : Nat) : Text → Option Bytes
  | [] => if seen = 0 then some [] else none
  | c :: t =>
    if c = '=' then
      if seen < 2 then decodeFrom? seen fill left t
      else if 4 ≤ seen + fill + 1 then some []
      else decodeFrom? seen (fill + 1) left t
    else
      match digit? c with
      | none => decodeFrom? seen fill left t
      | some n =>
        match seen with
        | 0 => decodeFrom? 1 0 n t
        | 1 => (decodeFrom? 2 0 n t).map (UInt8.ofNat (left % 64 * 4 + n / 16) :: ·)
        | 2 => (decodeFrom? 3 0 n t).map (UInt8.ofNat (left % 16 * 16 + n / 4) :: ·)
        | _ => (decodeFrom? 0 0 0 t).map (UInt8.ofNat (left % 4 * 64 + n) :: ·)

/-- The bytes of a text. -/
def decode? (t : Text) : Option Bytes :=
  decodeFrom? 0 0 0 t

end Base64

end ApiAtlas
