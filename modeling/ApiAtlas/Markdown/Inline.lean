import ApiAtlas.Markdown.Emphasis

/-!
# Running text

**Input.** The text of a paragraph or heading, and the link targets that the document defines.

**Algorithm.** The text is read from left to right.  Escapes, code, line breaks, deleted text and
addresses in angle brackets are pieces at once; runs of `*` and `_` are kept as they are, and
emphasis is settled later.  At an opening bracket the reader begins a new level.  A closing bracket
ends it: when a target follows, or when the text between the brackets is the label of one, the
level becomes a link, and the brackets around can no longer become links; otherwise its brackets
are plain text.  The text of a link is read again, as a text of its own without links.  Every step
reads at least one character, and no character is read more than twice, so twice the length of the
text bounds their number.
-/

namespace ApiAtlas

namespace Markdown

namespace Inline

section Marks

/-- The number of characters `c` at the start of a text. -/
def run (c : Char) (t : Text) : Nat :=
  (t.takeWhile (· == c)).length

/-- The content up to the next two tildes that close deleted text, and the rest.  They close it
after a character that is no blank, and only at the start of an even number of tildes; a backslash
takes the meaning of the first of an odd number.  `slashes` counts the backslashes just before, and
`afterBlank` tells whether a blank or another tilde stands there. -/
def deletedEnd? (slashes : Nat) (afterBlank : Bool) : Text → Option (Text × Text)
  | [] => none
  | d :: t =>
    let on (r : Option (Text × Text)) := r.map fun (u, rest) => (d :: u, rest)
    if d = '~' then
      let size := run '~' (d :: t)
      if afterBlank then on (deletedEnd? 0 true t)
      else if size % 2 = 0 then some ([], t.drop 1)
      else if 3 ≤ size && slashes % 2 = 1 then some ([d], t.drop 2)
      else on (deletedEnd? 0 true t)
    else on (deletedEnd? (if d = '\\' then slashes + 1 else 0) (Text.isBlank d) t)

/-- The content of deleted text that starts here, and the rest. -/
def deleted? (t : Text) : Option (Text × Text) :=
  if run '~' t = 2 && (t.drop 2).head?.any (!Text.isBlank ·) then deletedEnd? 0 false (t.drop 2)
  else none

/-- The content up to the next run of exactly `n` backticks, and the rest; `skipping` says that
the place is inside a run. -/
def codeEnd? (n : Nat) (skipping : Bool) : Text → Option (Text × Text)
  | [] => none
  | d :: t =>
    if d = '`' && !skipping && run '`' (d :: t) = n then some ([], (d :: t).drop n)
    else (codeEnd? n (d == '`') t).map fun (u, rest) => (d :: u, rest)

/-- Code as it is shown: line breaks are spaces, and one space at either end does not count when
there is anything else. -/
def shownCode (t : Text) : Text :=
  let u := t.map fun c => if c = '\n' then ' ' else c
  if u.all (· == ' ') then u
  else if u.head? == some ' ' && Text.endsWith ' ' u then u.tail.dropLast else u

/-- What follows a forced line break: a backslash, or two spaces or more, at the end of a line. -/
def breakEnd? (t : Text) : Option Text :=
  match t with
  | '\\' :: '\n' :: rest => some (rest.dropWhile Text.isBlank)
  | _ =>
    match run ' ' t, t.dropWhile (· == ' ') with
    | _ + 2, '\n' :: rest => some (rest.dropWhile Text.isBlank)
    | _, _ => none

/-- Whether plain text stops before this place. -/
def stops (t : Text) : Bool :=
  match t with
  | [] => true
  | c :: _ => "\\[]_*`~".toList.contains c || (c == ' ' && (breakEnd? t).isSome) ||
    (c == '<' && (Target.alone? t).isSome)

/-- Plain text up to the next place where it stops, and the rest. -/
def plainTail : Text → Text × Text
  | [] => ([], [])
  | c :: t =>
    if stops (c :: t) then ([], c :: t)
    else
      let (u, rest) := plainTail t
      (c :: u, rest)

/-- Plain text with the blanks around its line breaks removed; `held` counts the spaces that may
stand before a line break, and `skipping` says that a line break was just read. -/
def narrow (held : Nat) (skipping : Bool) : Text → Text
  | [] => List.replicate held ' '
  | c :: t =>
    if skipping && Text.isBlank c then narrow 0 true t
    else if c = '\n' then '\n' :: narrow 0 true t
    else if c = ' ' then narrow (held + 1) false t
    else List.replicate held ' ' ++ c :: narrow 0 false t

end Marks

section Links

/-- A level of brackets that is open. -/
structure Level where
  /-- The pieces before its bracket, last first. -/
  before : List Piece
  /-- The text after its bracket. -/
  after : Text
  /-- Whether it can become a link. -/
  active : Bool
deriving Inhabited

/-- What was read: the pieces of the innermost level, last first, and the levels around. -/
structure Reading where
  /-- The pieces, last first. -/
  pieces : List Piece
  /-- The open levels, innermost first. -/
  levels : List Level
deriving Inhabited

namespace Reading

/-- One more piece. -/
def add (s : Reading) (p : Piece) : Reading :=
  { s with pieces := p :: s.pieces }

/-- One more piece of plain text. -/
def addPlain (s : Reading) (t : Text) : Reading :=
  s.add (.settled (.plain t))

/-- A new level, whose text is to be read. -/
def descend (s : Reading) (after : Text) : Reading :=
  ⟨[], ⟨s.pieces, after, true⟩ :: s.levels⟩

/-- The pieces of a level after those before it, with the bracket as plain text. -/
def flat (pieces : List Piece) (l : Level) : List Piece :=
  pieces ++ .settled (.plain ['[']) :: l.before

/-- All pieces in order, with the open brackets as plain text. -/
def finish (s : Reading) : List Piece :=
  (s.levels.foldl flat s.pieces).reverse

end Reading

/-- The target behind a closing bracket and what follows it: in parentheses, under a label of its
own, or under the text between the brackets, given as `text`. -/
def targetAfter? (targets : Targets) (text rest : Text) : Option (Target × Text) :=
  let own (rest : Text) : Option (Target × Text) :=
    if (Target.label? (text ++ [']'])).any fun (l, _) => l == text then
      (targets.find? text).map fun target => (target, rest)
    else none
  let referred : Option (Target × Text) :=
    match rest with
    | '[' :: ']' :: after => own after
    | '[' :: after =>
      match Target.label? after with
      | some (l, after) => (targets.find? l).map fun target => (target, after)
      | none => own rest
    | _ => own rest
  match rest with
  | '(' :: after => (Target.inline? after).orElse fun _ => referred
  | _ => referred

/-- The link that a closing bracket ends: its text and its target, the reading around it, and the
rest of the text. -/
def linkBefore? (targets : Targets) (s : Reading) (rest : Text) :
    Option (Text × Target × Reading × Text) :=
  match s.levels with
  | [] => none
  | level :: levels =>
    let text := level.after.take (level.after.length - (rest.length + 1))
    let target := if level.active then targetAfter? targets text rest else none
    target.map fun (target, rest) =>
      (text, target, ⟨level.before, levels.map fun l => { l with active := false }⟩, rest)

/-- The reading after a closing bracket that ends no link. -/
def closeBracket (s : Reading) : Reading :=
  match s.levels with
  | [] => s.addPlain [']']
  | level :: levels => (⟨Reading.flat s.pieces level, levels⟩ : Reading).addPlain [']']

end Links

section Reading

/-- The character after a run of marks; a line break in front of which a backslash stands counts as
such. -/
def following (t : Text) : Option Char :=
  match t with
  | '\\' :: '\n' :: _ => some '\n'
  | _ => t.head?

/-- The pieces of a text.  `budget` bounds the number of steps, `inLink` says that the text is that
of a link, and `before` is the character before the text. -/
def readWithin (budget : Nat) (targets : Targets) (inLink : Bool) (s : Reading)
    (before : Option Char) (t : Text) : List Inline :=
  match budget, t with
  | 0, _ | _, [] => Piece.pairUp s.finish
  | n + 1, c :: rest =>
    let go (s : Reading) (before : Option Char) (t : Text) : List Inline :=
      readWithin n targets inLink s before t
    match breakEnd? t, Target.alone? t with
    | some rest, _ => go (s.add (.settled .lineBreak)) (some '\n') rest
    | none, some ((u, target), rest) =>
      if inLink then go (s.addPlain ('<' :: u ++ ['>'])) (some '>') rest
      else go (s.add (.settled (.link [.plain u] target))) (some '>') rest
    | none, none =>
      if c = '\\' then
        match rest with
        | d :: after =>
          if Text.isBasicMark d then go (s.add (.settled (.literal [d]))) (some d) after
          else go (s.addPlain ['\\']) (some '\\') rest
        | [] => go (s.addPlain ['\\']) (some '\\') rest
      else if c = '`' then
        let size := run '`' t
        match codeEnd? size true (t.drop size) with
        | some (u, rest) => go (s.add (.settled (.code (shownCode u)))) (some '`') rest
        | none => go (s.addPlain (t.take size)) (some '`') (t.drop size)
      else if c = '*' || c = '_' then
        let size := run c t
        let rest := t.drop size
        go (s.add (.marks (.between c size before (following rest)))) (some c) rest
      else if c = '~' then
        match deleted? t with
        | some (u, rest) =>
          let inner := readWithin n targets inLink ⟨[], []⟩ none u
          go (s.add (.settled (.deleted inner))) (some '~') rest
        | none => go (s.addPlain ['~']) (some '~') rest
      else if c = '[' && !inLink then go (s.descend rest) (some '[') rest
      else if c = ']' && !inLink then
        match linkBefore? targets s rest with
        | some (text, target, s, after) =>
          let inner := readWithin n targets true ⟨[], []⟩ none text
          let last := (t.take (t.length - after.length)).getLast?
          go (s.add (.settled (.link inner target))) last after
        | none => go (closeBracket s) (some ']') rest
      else
        let (u, rest) := plainTail rest
        let taken := c :: u
        go (s.addPlain (narrow 0 false taken)) taken.getLast? rest

/-- The pieces of a text. -/
def read (targets : Targets) (t : Text) : List Inline :=
  readWithin (2 * t.length + 2) targets false ⟨[], []⟩ none t

end Reading

end Inline

end Markdown

end ApiAtlas
