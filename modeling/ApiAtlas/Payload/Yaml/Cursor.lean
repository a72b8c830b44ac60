import ApiAtlas.Text.Half

/-!
# Positions in a YAML text

**Definitions.** A `Cursor` is the rest of a text with the number of characters read, the line and
the column.  Five characters break lines, and a carriage return with a line feed counts as one
break; a byte order mark has no width.  A break is taken over as a line feed, except for the two
separators that stand for themselves.
-/

namespace ApiAtlas

namespace Yaml

/-- A position in a text. -/
structure Cursor where
  /-- What is still to be read. -/
  rest : Text
  /-- The number of characters read. -/
  index : Nat
  /-- The number of line breaks read. -/
  line : Nat
  /-- The number of characters read on the current line. -/
  column : Nat

section Defs

/-- Whether a character breaks lines. -/
def isBreak (c : Char) : Bool :=
  c == '\n' || c == '\r' || c == '\x85' || c == '\u2028' || c == '\u2029'

/-- Whether a character is a space or a tab. -/
def isGap (c : Char) : Bool :=
  c == ' ' || c == '\t'

/-- Whether there is a gap, a line break or nothing at all. -/
def endsWord (c : Option Char) : Bool :=
  c.elim true fun c => isGap c || isBreak c

/-- Whether there is a line break or nothing at all. -/
def endsLine (c : Option Char) : Bool :=
  c.elim true isBreak

/-- Whether there is a space, a line break or nothing at all. -/
def endsPart (c : Option Char) : Bool :=
  c.elim true fun c => c == ' ' || isBreak c

/-- Whether a text can be read at all: tabs, line breaks and printable characters only. -/
def isReadable (t : Text) : Bool :=
  t.all fun c =>
    let n := c.toNat
    c == '\t' || c == '\n' || c == '\r' || (0x20 ≤ n && n ≤ 0x7E) || n == 0x85 ||
      (0xA0 ≤ n && n ≤ 0xD7FF) || (0xE000 ≤ n && n ≤ 0xFFFD) ||
      (0x10000 ≤ n && !Text.isHalf c)

end Defs

namespace Cursor

section Defs

/-- The start of a text. -/
def start (t : Text) : Cursor :=
  ⟨t, 0, 0, 0⟩

/-- The character `k` places ahead. -/
def ahead (c : Cursor) (k : Nat) : Option Char :=
  c.rest[k]?

/-- The next character. -/
def peek (c : Cursor) : Option Char :=
  c.rest.head?

/-- The position after the next character. -/
def next (c : Cursor) : Cursor :=
  match c.rest with
  | [] => c
  | a :: rest =>
    if isBreak a && !(a == '\r' && rest.head? == some '\n') then ⟨rest, c.index + 1, c.line + 1, 0⟩
    else ⟨rest, c.index + 1, c.line, if a == '\uFEFF' then c.column else c.column + 1⟩

/-- The position after the next `n` characters. -/
def skip (c : Cursor) : Nat → Cursor
  | 0 => c
  | n + 1 => c.next.skip n

/-- The characters of a class that come next, and the position after them. -/
def span (c : Cursor) (p : Char → Bool) : Text × Cursor :=
  let t := c.rest.takeWhile p
  (t, c.skip t.length)

/-- The position after the characters of a class that come next. -/
def pass (c : Cursor) (p : Char → Bool) : Cursor :=
  (c.span p).2

/-- The line break that comes next, as it is taken over, and the position after it. -/
def break? (c : Cursor) : Option (Char × Cursor) :=
  match c.rest with
  | '\r' :: '\n' :: _ => some ('\n', c.skip 2)
  | a :: _ =>
    if a == '\u2028' || a == '\u2029' then some (a, c.next)
    else if isBreak a then some ('\n', c.next)
    else none
  | [] => none

/-- Whether the three characters `a` and the end of a word come next. -/
def marks (c : Cursor) (a : Char) : Bool :=
  c.ahead 0 == some a && c.ahead 1 == some a && c.ahead 2 == some a && endsWord (c.ahead 3)

/-- Whether a line that separates documents comes next. -/
def separates (c : Cursor) : Bool :=
  c.marks '-' || c.marks '.'

/-- The position after the rest of a line that may hold only a comment, with its break. -/
def passLineEnd? (c : Cursor) : Option Cursor :=
  let c := c.pass (· == ' ')
  let c := if c.peek == some '#' then c.pass (!isBreak ·) else c
  if endsLine c.peek then some (c.break?.elim c (·.2)) else none

end Defs

end Cursor

end Yaml

end ApiAtlas
