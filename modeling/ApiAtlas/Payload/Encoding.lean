import ApiAtlas.Text.Half

/-!
# Bytes as text

**Input.** The bytes of a payload or of a file.

**Definitions.** The encodings with units of one, two and four bytes.  Halves of characters are
refused or kept, as the caller says; anything else that the encoding does not define is refused.
`jsonEncoding` tells the encoding of a JSON document from its first four bytes.
-/

namespace ApiAtlas

/-- The bytes of a file. -/
abbrev Bytes := List UInt8

/-- The order of the bytes in a unit. -/
inductive ByteOrder
  | little
  | big
deriving DecidableEq, Repr

/-- An encoding of text. -/
inductive Encoding
  | utf8
  | utf16 (order : ByteOrder)
  | utf32 (order : ByteOrder)
deriving DecidableEq, Repr

namespace Encoding

section Defs

/-- Whether a unit is a half of a character. -/
def isHalfUnit (n : Nat) : Bool :=
  Text.isFirstHalf n || Text.isSecondHalf n

/-- The six low bits of a byte that continues a character. -/
def continuation? (b : UInt8) : Option Nat :=
  if 0x80 ≤ b && b < 0xC0 then some (b.toNat - 0x80) else none

/-- Text in units of one byte.  No character is written with more bytes than it needs. -/
def decode8 (halves : Bool) : Bytes → Option Text
  | [] => some []
  | a :: rest =>
    if a < 0x80 then (decode8 halves rest).map (Char.ofNat a.toNat :: ·)
    else
      match rest with
      | [] => none
      | b :: rest =>
        match continuation? b with
        | none => none
        | some y =>
          if 0xC2 ≤ a && a < 0xE0 then
            let n := (a.toNat - 0xC0) * 64 + y
            (decode8 halves rest).map (Char.ofNat n :: ·)
          else
            match rest with
            | [] => none
            | c :: rest =>
              match continuation? c with
              | none => none
              | some z =>
                if 0xE0 ≤ a && a < 0xF0 then
                  let n := ((a.toNat - 0xE0) * 64 + y) * 64 + z
                  if n < 0x800 || (!halves && isHalfUnit n) then none
                  else (decode8 halves rest).map (Text.ofCodePoint n :: ·)
                else
                  match rest with
                  | [] => none
                  | d :: rest =>
                    match continuation? d with
                    | none => none
                    | some w =>
                      let n := (((a.toNat - 0xF0) * 64 + y) * 64 + z) * 64 + w
                      if 0xF0 ≤ a && a < 0xF5 && 0x10000 ≤ n && n < 0x110000 then
                        (decode8 halves rest).map (Char.ofNat n :: ·)
                      else none

/-- The number of a unit of two bytes. -/
def pair (order : ByteOrder) (a b : UInt8) : Nat :=
  match order with
  | .little => a.toNat + 256 * b.toNat
  | .big => 256 * a.toNat + b.toNat

/-- The units of two bytes. -/
def units16? (order : ByteOrder) : Bytes → Option (List Nat)
  | [] => some []
  | [_] => none
  | a :: b :: rest => (units16? order rest).map (pair order a b :: ·)

/-- The units of four bytes. -/
def units32? (order : ByteOrder) : Bytes → Option (List Nat)
  | [] => some []
  | a :: b :: c :: d :: rest =>
    let unit :=
      match order with
      | .little => pair order a b + 65536 * pair order c d
      | .big => 65536 * pair order a b + pair order c d
    (units32? order rest).map (unit :: ·)
  | _ => none

/-- Text in units of two bytes: two halves in the right order make one character. -/
def ofUnits16? (halves : Bool) : List Nat → Option Text
  | [] => some []
  | [n] => if isHalfUnit n && !halves then none else some [Text.ofCodePoint n]
  | m :: n :: rest =>
    if Text.isFirstHalf m && Text.isSecondHalf n then
      (ofUnits16? halves rest).map (Text.ofCodePoint (Text.joinHalves m n) :: ·)
    else if isHalfUnit m && !halves then none
    else (ofUnits16? halves (n :: rest)).map (Text.ofCodePoint m :: ·)

/-- Text in units of four bytes. -/
def ofUnits32? (halves : Bool) (units : List Nat) : Option Text :=
  units.mapM fun n =>
    if 0x110000 ≤ n || (isHalfUnit n && !halves) then none else some (Text.ofCodePoint n)

/-- The text that bytes encode; `halves` says whether halves of characters are kept. -/
def decode? (e : Encoding) (halves : Bool) (bytes : Bytes) : Option Text :=
  match e with
  | utf8 => decode8 halves bytes
  | utf16 order => (units16? order bytes).bind (ofUnits16? halves)
  | utf32 order => (units32? order bytes).bind (ofUnits32? halves)

/-- The encoding of a JSON document, with the bytes after its byte order mark.  Without a mark the
zeros among the first bytes tell the size and the order of the units. -/
def jsonEncoding (bytes : Bytes) : Encoding × Bytes :=
  match bytes with
  | 0x00 :: 0x00 :: 0xFE :: 0xFF :: rest => (utf32 .big, rest)
  | 0xFF :: 0xFE :: 0x00 :: 0x00 :: rest => (utf32 .little, rest)
  | 0xFE :: 0xFF :: rest => (utf16 .big, rest)
  | 0xFF :: 0xFE :: rest => (utf16 .little, rest)
  | 0xEF :: 0xBB :: 0xBF :: rest => (utf8, rest)
  | 0x00 :: b :: _ :: _ :: _ => (if b = 0 then utf32 .big else utf16 .big, bytes)
  | _ :: 0x00 :: c :: d :: _ =>
    (if c = 0 && d = 0 then utf32 .little else utf16 .little, bytes)
  | [0x00, _] => (utf16 .big, bytes)
  | [_, 0x00] => (utf16 .little, bytes)
  | _ => (utf8, bytes)

/-- The encoding of a YAML document: two-byte units need a mark, which stays in the text. -/
def yamlEncoding (bytes : Bytes) : Encoding :=
  match bytes with
  | 0xFF :: 0xFE :: _ => utf16 .little
  | 0xFE :: 0xFF :: _ => utf16 .big
  | _ => utf8

/-- The text of a file, which has to be whole characters in units of one byte. -/
def text? (bytes : Bytes) : Option Text :=
  decode8 false bytes

/-- A character in units of one byte.  A half that stands alone gets three bytes, which are not the
bytes of any text. -/
def encodeChar (c : Char) : Bytes :=
  let n := Text.codePoint c
  if n < 0x80 then [UInt8.ofNat n]
  else if n < 0x800 then [UInt8.ofNat (0xC0 + n / 64), UInt8.ofNat (0x80 + n % 64)]
  else if n < 0x10000 then
    [UInt8.ofNat (0xE0 + n / 4096), UInt8.ofNat (0x80 + n / 64 % 64), UInt8.ofNat (0x80 + n % 64)]
  else
    [UInt8.ofNat (0xF0 + n / 262144), UInt8.ofNat (0x80 + n / 4096 % 64),
      UInt8.ofNat (0x80 + n / 64 % 64), UInt8.ofNat (0x80 + n % 64)]

/-- A text in units of one byte. -/
def encode8 (t : Text) : Bytes :=
  t.flatMap encodeChar

end Defs

end Encoding

end ApiAtlas
