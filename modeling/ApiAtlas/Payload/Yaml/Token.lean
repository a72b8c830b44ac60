import ApiAtlas.Payload.Yaml.Scalar

/-!
# Tokens of a YAML text

**Input.** A text.

**Algorithm.** Indentation and the signs of the text become tokens, in one pass from left to
right.  Whether a node is the key of a mapping shows only when a colon follows it on the same
line, so the last place where a key may have begun is remembered for every level of brackets, and
the tokens of the mapping are put in there when the colon comes.

**Definitions.** `Scan` is the state of the pass.  `tokens` gives the tokens of a whole text.  When
the text cannot be divided any further, the last token tells why; the tokens before it are those
that do not wait for a colon.
-/

namespace ApiAtlas

namespace Yaml

/-- A tag as it is written: with the handle that abbreviates its beginning, or in full. -/
structure TagName where
  /-- The handle, when there is one. -/
  handle : Option Text
  /-- What follows the handle. -/
  suffix : Text
deriving DecidableEq, Repr

/-- A part of a YAML text. -/
inductive Token
  | versionDirective (major : Nat)
  | tagDirective (handle beginning : Text)
  | otherDirective
  | documentStart
  | documentEnd
  | blockSequenceStart
  | blockMappingStart
  | blockEnd
  | flowSequenceStart
  | flowSequenceEnd
  | flowMappingStart
  | flowMappingEnd
  | flowEntry
  | blockEntry
  | key
  | value
  | alias (name : Text)
  | anchor (name : Text)
  | tag (name : TagName)
  | scalar (text : Text) (plain : Bool)
  /-- The place where the text cannot be divided any further. -/
  | failure (f : Payload.Failure)
deriving DecidableEq, Repr

/-- A place where the key of a mapping may have begun. -/
structure KeyPlace where
  /-- The number of tokens before it. -/
  tokens : Nat
  /-- Whether a key has to begin here. -/
  required : Bool
  /-- The number of characters before it. -/
  index : Nat
  /-- Its line. -/
  line : Nat
  /-- Its column. -/
  column : Nat

/-- The state of the division into tokens. -/
structure Scan where
  /-- The position in the text. -/
  cursor : Cursor
  /-- The tokens so far. -/
  tokens : List Token
  /-- The place of a possible key for each level of brackets, innermost first. -/
  keys : List (Option KeyPlace)
  /-- The column of the innermost block collection. -/
  indent : Int
  /-- The columns of the block collections around it, innermost first. -/
  outer : List Int
  /-- Whether a key may begin at the position. -/
  allowKey : Bool

namespace Scan

open Payload

section Defs

/-- The state before a text. -/
def start (t : Text) : Scan :=
  { cursor := .start t, tokens := [], keys := [none], indent := -1, outer := [], allowKey := true }

/-- Whether the position is inside brackets. -/
def inFlow (s : Scan) : Bool :=
  1 < s.keys.length

/-- The state after a token is added. -/
def emit (s : Scan) (t : Token) : Scan :=
  { s with tokens := s.tokens ++ [t] }

/-- The state after a token of `n` characters. -/
def take (s : Scan) (n : Nat) (t : Token) : Scan :=
  { s.emit t with cursor := s.cursor.skip n }

/-- The position after blanks, comments and line breaks.  Outside brackets a new line may begin
with a key. -/
def passBlanks : Nat → Scan → Scan
  | 0, s => s
  | n + 1, s =>
    let c := s.cursor.pass (· == ' ')
    let c := if c.peek == some '#' then c.pass (!isBreak ·) else c
    match c.break? with
    | none => { s with cursor := c }
    | some (_, c) =>
      passBlanks n { s with cursor := c, allowKey := s.allowKey || !s.inFlow }

/-- Whether the line of a place is over, or the place is too far away. -/
def isStale (s : Scan) (k : KeyPlace) : Bool :=
  k.line != s.cursor.line || 1024 < s.cursor.index - k.index

/-- Forgets the stale places; there is no state when a key was required at one of them. -/
def dropStale? (s : Scan) : Option Scan :=
  if s.keys.any fun k => k.elim false fun k => s.isStale k && k.required then none
  else some { s with keys := s.keys.map fun k => k.filter (!s.isStale ·) }

/-- Forgets the place of this level of brackets; there is no state when a key was required. -/
def dropKey? (s : Scan) : Option Scan :=
  match s.keys with
  | some k :: ks => if k.required then none else some { s with keys := none :: ks }
  | _ => some s

/-- Remembers the position as a place where a key may begin. -/
def noteKey? (s : Scan) : Option Scan :=
  if s.allowKey then
    s.dropKey?.map fun s =>
      let place : KeyPlace :=
        { tokens := s.tokens.length
          required := !s.inFlow && s.indent == s.cursor.column
          index := s.cursor.index
          line := s.cursor.line
          column := s.cursor.column }
      { s with keys := some place :: s.keys.tail }
  else some s

/-- The state with keys allowed or not. -/
def allow (s : Scan) (b : Bool) : Scan :=
  { s with allowKey := b }

/-- Ends the block collections that begin to the right of a column, given those around them. -/
def unwind (column : Int) (s : Scan) : List Int → Scan
  | [] => s
  | i :: outer =>
    if s.inFlow || s.indent ≤ column then s
    else unwind column { s.emit .blockEnd with indent := i, outer := outer } outer

/-- Ends the block collections that begin to the right of a column. -/
def unwindTo (s : Scan) (column : Int) : Scan :=
  unwind column s s.outer

/-- Begins a block collection at a column, unless one begins there or further to the right;
`place` is the number of tokens before it. -/
def indentTo (s : Scan) (column : Int) (place : Nat) (t : Token) : Scan :=
  if s.indent < column then
    { s with
      tokens := s.tokens.insertIdx place t
      indent := column
      outer := s.indent :: s.outer }
  else s

/-- A sign that begins a part of a block collection.  Outside brackets it has to stand where a key
may begin, and it begins the collection if none begins there. -/
def blockSign? (s : Scan) (collection sign : Token) (allowAfter : Bool) : Option Scan :=
  if s.inFlow then ((s.allow allowAfter).dropKey?).map (·.take 1 sign)
  else if s.allowKey then
    let s := s.indentTo s.cursor.column s.tokens.length collection
    ((s.allow allowAfter).dropKey?).map (·.take 1 sign)
  else none

/-- A sign of a value: the key began at the remembered place, or there is none. -/
def mappingValue? (s : Scan) : Option Scan :=
  match s.keys with
  | some k :: ks =>
    let s := { s with keys := none :: ks, tokens := s.tokens.insertIdx k.tokens .key }
    let s := if s.inFlow then s else s.indentTo k.column k.tokens .blockMappingStart
    some ((s.allow false).take 1 .value)
  | _ => s.blockSign? .blockMappingStart .value (!s.inFlow)

/-- Whether a character may stand in a name. -/
def isNameChar (c : Char) : Bool :=
  c.isAlphanum || c == '-' || c == '_'

/-- The name of an anchor or of an alias, after its sign. -/
def anchorName? (c : Cursor) : Option (Text × Cursor) :=
  let (name, c) := c.next.span isNameChar
  let ends := c.peek.elim true fun a => isGap a || isBreak a || "?:,]\x7d%@`".toList.contains a
  if name.isEmpty || !ends then none else some (name, c)

/-- Whether a character may stand in the address of a tag. -/
def isAddressChar (c : Char) : Bool :=
  isNameChar c || ";/?:@&=+$,.!~*'()[]%".toList.contains c

/-- Bytes written as a percent sign and two digits each. -/
def percentBytes? : Text → Option (Bytes × Text)
  | '%' :: a :: b :: rest =>
    match Text.hexValue? a, Text.hexValue? b with
    | some x, some y =>
      match percentBytes? rest with
      | some (bs, rest) => some (UInt8.ofNat (16 * x + y) :: bs, rest)
      | none => none
    | _, _ => none
  | '%' :: _ => none
  | rest => some ([], rest)

/-- The address of a tag with its percent signs resolved. -/
def plainAddress? : Nat → Text → Option Text
  | 0, _ => none
  | _ + 1, [] => some []
  | n + 1, '%' :: rest =>
    match percentBytes? ('%' :: rest) with
    | none => none
    | some (bytes, rest) =>
      match Encoding.text? bytes, plainAddress? n rest with
      | some t, some u => some (t ++ u)
      | _, _ => none
  | n + 1, c :: rest => (plainAddress? n rest).map (c :: ·)

/-- The address of a tag. -/
def address? (c : Cursor) : Option (Text × Cursor) :=
  let (raw, c) := c.span isAddressChar
  if raw.isEmpty then none
  else (plainAddress? (raw.length + 1) raw).map fun t => (t, c)

/-- The handle of a tag: an exclamation mark, or a name between two of them. -/
def handle? (c : Cursor) : Option (Text × Cursor) :=
  match c.rest with
  | '!' :: ' ' :: _ => some (['!'], c.next)
  | '!' :: _ =>
    let (name, d) := c.next.span isNameChar
    if d.peek == some '!' then some ('!' :: name ++ ['!'], d.next) else none
  | _ => none

/-- A tag. -/
def tagName? (c : Cursor) : Option (TagName × Cursor) :=
  let result : Option (TagName × Cursor) :=
    match c.ahead 1 with
    | some '<' =>
      match address? (c.skip 2) with
      | some (a, d) => if d.peek == some '>' then some (⟨none, a⟩, d.next) else none
      | none => none
    | a =>
      if endsWord a then some (⟨none, ['!']⟩, c.next)
      else
        let word := (c.rest.drop 1).takeWhile fun a => !(a == ' ' || isBreak a)
        if word.contains '!' then
          match handle? c with
          | some (h, d) => (address? d).map fun (a, d) => (⟨some h, a⟩, d)
          | none => none
        else (address? c.next).map fun (a, d) => (⟨some ['!'], a⟩, d)
  match result with
  | some (t, d) => if endsPart d.peek then some (t, d) else none
  | none => none

/-- A number in decimal digits. -/
def number? (c : Cursor) : Option (Nat × Cursor) :=
  match c.span Char.isDigit with
  | ([], _) => none
  | (ds, c) => some (Json.natOf ds, c)

/-- What a directive says, after its name. -/
def directiveValue? (name : Text) (c : Cursor) : Option (Token × Cursor) :=
  let c := c.pass (· == ' ')
  if name == "YAML".toList then
    match number? c with
    | none => none
    | some (major, c) =>
      if c.peek == some '.' then
        match number? c.next with
        | some (_, c) => if endsPart c.peek then some (.versionDirective major, c) else none
        | none => none
      else none
  else if name == "TAG".toList then
    match handle? c with
    | none => none
    | some (h, c) =>
      if c.peek == some ' ' then
        match address? (c.pass (· == ' ')) with
        | some (a, c) => if endsPart c.peek then some (.tagDirective h a, c) else none
        | none => none
      else none
  else some (.otherDirective, c.pass (!isBreak ·))

/-- A directive after its sign. -/
def directive? (c : Cursor) : Option (Token × Cursor) :=
  match c.next.span isNameChar with
  | ([], _) => none
  | (name, c) =>
    if endsPart c.peek then
      match directiveValue? name c with
      | some (t, c) => c.passLineEnd?.map fun c => (t, c)
      | none => none
    else none

/-- Whether a plain text can begin with the next character. -/
def startsPlain (s : Scan) (a : Char) : Bool :=
  !(isGap a || isBreak a || "-?:,[]\x7b\x7d#&*!|>'\"%@`".toList.contains a) ||
    (!endsWord (s.cursor.ahead 1) && (a == '-' || (!s.inFlow && (a == '?' || a == ':'))))

/-- The state after a token in quotes. -/
def quoted (s : Scan) (double : Bool) : Except Failure Scan :=
  match s.noteKey? with
  | none => .error .unreadable
  | some s =>
    (quotedText double (s.cursor.rest.length + 1) s.cursor.next).map fun (t, c) =>
      { s.emit (.scalar t false) with cursor := c, allowKey := false }

/-- The state after the token that begins with a character, unless that is a quote. -/
def token? (s : Scan) (a : Char) : Option Scan :=
  let c := s.cursor
  let wordEnds := s.inFlow || endsWord (c.ahead 1)
  let apart := ((s.unwindTo (-1)).allow false).dropKey?
  if a == '%' && c.column == 0 then do
    let s ← apart
    let (t, c) ← directive? c
    return { s.emit t with cursor := c }
  else if c.column == 0 && c.marks '-' then apart.map (·.take 3 .documentStart)
  else if c.column == 0 && c.marks '.' then apart.map (·.take 3 .documentEnd)
  else if a == '[' || a == '\x7b' then
    s.noteKey?.map fun s =>
      { s.take 1 (if a == '[' then .flowSequenceStart else .flowMappingStart) with
        keys := none :: s.keys, allowKey := true }
  else if a == ']' || a == '\x7d' then
    match s.dropKey? with
    | none => none
    | some s =>
      if s.inFlow then
        some { s.take 1 (if a == ']' then .flowSequenceEnd else .flowMappingEnd) with
          keys := s.keys.tail, allowKey := false }
      else none
  else if a == ',' then (s.allow true).dropKey?.map (·.take 1 .flowEntry)
  else if a == '-' && endsWord (c.ahead 1) then s.blockSign? .blockSequenceStart .blockEntry true
  else if a == '?' && wordEnds then s.blockSign? .blockMappingStart .key (!s.inFlow)
  else if a == ':' && wordEnds then s.mappingValue?
  else if a == '*' || a == '&' then do
    let s ← s.noteKey?
    let (name, c) ← anchorName? c
    return { s.emit (if a == '*' then .alias name else .anchor name) with
      cursor := c, allowKey := false }
  else if a == '!' then do
    let s ← s.noteKey?
    let (t, c) ← tagName? c
    return { s.emit (.tag t) with cursor := c, allowKey := false }
  else if (a == '|' || a == '>') && !s.inFlow then do
    let s ← (s.allow true).dropKey?
    let (t, c) ← blockText? (a == '>') s.indent c.next
    return { s.emit (.scalar t false) with cursor := c }
  else if s.startsPlain a then
    s.noteKey?.map fun s =>
      let (t, c, broke) := plainText s.inFlow (s.indent + 1) (c.rest.length + 1) [] false c
      { s.emit (.scalar t true) with cursor := c, allowKey := broke }
  else none

/-- The state after the next token; at the end of the text all collections end, and there is no
more to read. -/
def advance (s : Scan) : Except Failure Scan :=
  let s := passBlanks (s.cursor.rest.length + 1) s
  match s.dropStale? with
  | none => .error .unreadable
  | some s =>
    let s := s.unwindTo s.cursor.column
    match s.cursor.peek with
    | none => orUnreadable (s.unwindTo (-1)).dropKey?
    | some a => if a == '"' || a == '\'' then s.quoted (a == '"') else orUnreadable (s.token? a)

/-- The tokens that can be used before the next one is known: a token that may begin a key waits. -/
def settled (s : Scan) : List Token :=
  let waiting := (s.keys.filterMap id).filter (!s.isStale ·)
  s.tokens.take (waiting.foldl (fun n k => min n k.tokens) s.tokens.length)

/-- The tokens from a state on; every round reads at least one character. -/
def run : Nat → Scan → List Token
  | 0, s => s.settled ++ [.failure .unreadable]
  | n + 1, s =>
    match s.advance with
    | .error f => s.settled ++ [.failure f]
    | .ok t => if t.cursor.rest.isEmpty && s.cursor.rest.isEmpty then t.tokens else run n t

end Defs

end Scan

/-- The tokens of a text.  A byte order mark in front is passed over. -/
def tokens (t : Text) : List Token :=
  if isReadable t then
    let t := if t.head? == some '\uFEFF' then t.drop 1 else t
    (Scan.start t).run (t.length + 3)
  else [.failure .unreadable]

end Yaml

end ApiAtlas
