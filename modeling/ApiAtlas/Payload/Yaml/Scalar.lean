import ApiAtlas.Payload.Json
import ApiAtlas.Payload.Yaml.Cursor

/-!
# Texts in YAML documents

**Input.** A position at the start of a text in one of its styles: plain, in single or double
quotes, or as an indented block that keeps or folds its lines.

**Algorithm.** Each style is read in runs of characters with the blanks and line breaks between
them.  A single line break inside a text becomes a space, and further ones are kept; a block
keeps the breaks of lines that begin with a blank.  Loops are bounded by the number of characters
left, since every round reads at least one.
-/

namespace ApiAtlas

namespace Yaml

section Gaps

/-- The line breaks from a position on, each line's blanks passed over; `none` when a line that
separates documents comes in between. -/
def foldedBreaks? (blank : Char → Bool) : Nat → Cursor → Option (Text × Cursor)
  | 0, _ => none
  | n + 1, c =>
    if c.separates then none
    else
      let c := c.pass blank
      match c.break? with
      | none => some ([], c)
      | some (b, c) => (foldedBreaks? blank n c).map fun (bs, c) => (b :: bs, c)

/-- What stands for a line break and the breaks after it. -/
def fold (first : Char) (more : Text) : Text :=
  if first != '\n' then first :: more else if more.isEmpty then [' '] else more

end Gaps

section PlainStyle

/-- Whether a plain text ends before the character at a place. -/
def endsPlain (inFlow : Bool) (c next : Option Char) : Bool :=
  match c with
  | none => true
  | some a =>
    isGap a || isBreak a ||
      (a == ':' && (endsWord next || (inFlow && next.elim false (",[]\x7b\x7d".toList.contains ·)))) ||
      (inFlow && ",?[]\x7b\x7d".toList.contains a)

/-- The length of the next run of a plain text. -/
def plainRun (inFlow : Bool) : Text → Nat
  | [] => 0
  | a :: t => if endsPlain inFlow (some a) t.head? then 0 else plainRun inFlow t + 1

/-- The blanks after a run of a plain text: what stands for them, the position after them and
whether a line was broken.  At a line that separates documents nothing stands for them. -/
def plainGap (c : Cursor) : Text × Cursor × Bool :=
  let (blanks, c) := c.span (· == ' ')
  match c.break? with
  | none => (blanks, c, false)
  | some (b, c) =>
    match plainBreaks (c.rest.length + 1) c with
    | (none, c) => ([], c, true)
    | (some bs, c) => (fold b bs, c, true)
where
  /-- The further line breaks, unless a line that separates documents is met. -/
  plainBreaks : Nat → Cursor → Option Text × Cursor
    | 0, c => (none, c)
    | n + 1, c =>
      if c.separates then (none, c)
      else
        let d := c.pass (· == ' ')
        match d.break? with
        | none => (some [], d)
        | some (b, d) =>
          match plainBreaks n d with
          | (bs, e) => (bs.map (b :: ·), e)

/-- A plain text from its first run on: its characters, the position after it and whether its
last gap broke a line. -/
def plainText (inFlow : Bool) (indent : Int) : Nat → (gap : Text) → (broke : Bool) → Cursor →
    Text × Cursor × Bool
  | 0, _, broke, c => ([], c, broke)
  | n + 1, gap, broke, c =>
    let run := plainRun inFlow c.rest
    if c.peek == some '#' || run == 0 then ([], c, broke)
    else
      let head := gap ++ c.rest.take run
      let (gap, d, broke) := plainGap (c.skip run)
      if gap.isEmpty || d.peek == some '#' || (!inFlow && d.column < indent) then (head, d, broke)
      else
        let (tail, d, broke) := plainText inFlow indent n gap broke d
        (head ++ tail, d, broke)

end PlainStyle

section QuotedStyle

/-- The character that an escape of one letter stands for. -/
def escaped? : Char → Option Char
  | '0' => some '\x00'
  | 'a' => some '\x07'
  | 'b' => some '\x08'
  | 't' => some '\t'
  | '\t' => some '\t'
  | 'n' => some '\n'
  | 'v' => some '\x0b'
  | 'f' => some '\x0c'
  | 'r' => some '\r'
  | 'e' => some '\x1b'
  | ' ' => some ' '
  | '"' => some '"'
  | '\\' => some '\\'
  | '/' => some '/'
  | 'N' => some '\x85'
  | '_' => some '\xa0'
  | 'L' => some '\u2028'
  | 'P' => some '\u2029'
  | _ => none

/-- The number of hexadecimal digits after a letter that announces a code point. -/
def codeWidth? : Char → Option Nat
  | 'x' => some 2
  | 'u' => some 4
  | 'U' => some 8
  | _ => none

/-- The character of a code point in hexadecimal digits. -/
def codeChar (digits : Text) : Except Payload.Failure Char :=
  match Text.numeral? 16 digits with
  | none => .error .unreadable
  | some n =>
    if n < 0x110000 then .ok (Text.ofCodePoint n)
    else .error (.defective (if n < 0x80000000 then .noSuchValue else .oversizedCode))

/-- A text in quotes after its opening quote, and the position after the closing one. -/
def quotedText (double : Bool) : Nat → Cursor → Except Payload.Failure (Text × Cursor)
  | 0, _ => .error .unreadable
  | n + 1, c =>
    let more (t : Text) (c : Cursor) : Except Payload.Failure (Text × Cursor) :=
      (quotedText double n c).map fun (u, c) => (t ++ u, c)
    match c.rest with
    | [] => .error .unreadable
    | a :: rest =>
      if isGap a || isBreak a then
        let (blanks, c) := c.span isGap
        match c.break? with
        | none => more blanks c
        | some (b, c) =>
          match foldedBreaks? isGap (c.rest.length + 1) c with
          | none => .error .unreadable
          | some (bs, c) => more (fold b bs) c
      else if double then
        if a == '"' then .ok ([], c.next)
        else if a == '\\' then
          match rest with
          | [] => .error .unreadable
          | e :: rest =>
            match escaped? e, codeWidth? e with
            | some s, _ => more [s] (c.skip 2)
            | none, some w =>
              let digits := rest.take w
              if digits.length < w then .error .unreadable
              else
                match codeChar digits with
                | .error f => .error f
                | .ok s => more [s] (c.skip (w + 2))
            | none, none =>
              match c.next.break? with
              | none => .error .unreadable
              | some (_, c) =>
                match foldedBreaks? isGap (c.rest.length + 1) c with
                | none => .error .unreadable
                | some (bs, c) => more bs c
        else more [a] c.next
      else if a == '\'' then
        if rest.head? == some '\'' then more ['\''] (c.skip 2) else .ok ([], c.next)
      else more [a] c.next

end QuotedStyle

section BlockStyle

/-- What happens to the line breaks at the end of a block: one is kept, or none, or all. -/
inductive Chomping
  | clip
  | strip
  | keep
deriving DecidableEq, Repr

/-- The sign that tells what happens to the final line breaks. -/
def chomping? : Option Char → Option Chomping
  | some '+' => some .keep
  | some '-' => some .strip
  | _ => none

/-- The digit that tells the indentation of a block. -/
def blockIndent? (c : Option Char) : Option Nat :=
  c.bind fun a => if a.isDigit then some (a.toNat - '0'.toNat) else none

/-- What stands in the first line of a block: a sign and a digit in either order. -/
def blockHeader? (c : Cursor) : Option (Chomping × Option Nat × Cursor) :=
  let (chomp, indent, c) : Chomping × Option Nat × Cursor :=
    match chomping? c.peek with
    | some s =>
      match blockIndent? c.next.peek with
      | some i => (s, some i, c.skip 2)
      | none => (s, none, c.next)
    | none =>
      match blockIndent? c.peek with
      | some i =>
        match chomping? c.next.peek with
        | some s => (s, some i, c.skip 2)
        | none => (.clip, some i, c.next)
      | none => (.clip, none, c)
  if indent == some 0 || !endsPart c.peek then none
  else c.passLineEnd?.map fun c => (chomp, indent, c)

/-- The position after at most the spaces up to a column. -/
def passTo (indent : Int) : Nat → Cursor → Cursor
  | 0, c => c
  | n + 1, c => if c.column < indent && c.peek == some ' ' then passTo indent n c.next else c

/-- The line breaks before the next line of a block of known indentation. -/
def blockBreaks (indent : Int) : Nat → Cursor → Text × Cursor
  | 0, c => ([], c)
  | n + 1, c =>
    let c := passTo indent c.rest.length c
    match c.break? with
    | none => ([], c)
    | some (b, c) =>
      let (bs, c) := blockBreaks indent n c
      (b :: bs, c)

/-- The line breaks before the first line of a block, with the widest indentation met. -/
def leadingBreaks : Nat → (widest : Nat) → Cursor → Text × Nat × Cursor
  | 0, widest, c => ([], widest, c)
  | n + 1, widest, c =>
    if c.peek == some ' ' then leadingBreaks n (max widest c.next.column) c.next
    else
      match c.break? with
      | none => ([], widest, c)
      | some (b, c) =>
        let (bs, widest, c) := leadingBreaks n widest c
        (b :: bs, widest, c)

/-- The lines of a block, with the breaks before the next line: the text, the last break, the
breaks after it and the position. -/
def blockLines (folded : Bool) (indent : Int) : Nat → (breaks : Text) → Cursor →
    Text × Text × Text × Cursor
  | 0, breaks, c => ([], [], breaks, c)
  | n + 1, breaks, c =>
    let startsText := c.peek.elim false (!isGap ·)
    let (line, d) := c.span (!isBreak ·)
    let (last, d) : Text × Cursor := d.break?.elim ([], d) fun (b, d) => ([b], d)
    let (more, d) := blockBreaks indent (d.rest.length + 1) d
    if d.column == indent && !d.rest.isEmpty then
      let joint :=
        if folded && last == ['\n'] && startsText && d.peek.elim false (!isGap ·) then
          if more.isEmpty then [' '] else []
        else last
      let (rest, last, more, d) := blockLines folded indent n more d
      (breaks ++ line ++ joint ++ rest, last, more, d)
    else (breaks ++ line, last, more, d)

/-- A block after its sign: its text and the position after it. -/
def blockText? (folded : Bool) (outer : Int) (c : Cursor) : Option (Text × Cursor) :=
  match blockHeader? c with
  | none => none
  | some (chomp, given, c) =>
    let least := max (outer + 1) 1
    let size := c.rest.length + 1
    let (indent, breaks, c) : Int × Text × Cursor :=
      match given with
      | some i =>
        let indent := least + i - 1
        let (bs, c) := blockBreaks indent size c
        (indent, bs, c)
      | none =>
        let (bs, widest, c) := leadingBreaks size 0 c
        (max least widest, bs, c)
    let (text, last, more, c) :=
      if c.column == indent && !c.rest.isEmpty then blockLines folded indent size breaks c
      else ([], [], breaks, c)
    some
      (match chomp with
        | .strip => text
        | .clip => text ++ last
        | .keep => text ++ last ++ more, c)

end BlockStyle

end Yaml

end ApiAtlas
