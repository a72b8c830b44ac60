import ApiAtlas.Markdown.Target
import ApiAtlas.Text.Digit

/-!
# Lines that start blocks

**Input.** A line of a document, without its line break.

**Definitions.** What a line can start: a fence of code, indented code, a heading, a divider, a
quotation, a list item.  A mark counts only behind a few spaces: at most three, or at most `room`
where a reader asks for fewer.  An underline makes a heading of the paragraph above it.

Tabs in front of a line count in three ways.  In a list every tab reaches to the next column that
is a multiple of four (`expand`).  In code and in a quotation only the first tab counts: it fills
up a number of columns (`fillTab`), or has four columns of its own (`widenTab`).
-/

namespace ApiAtlas

namespace Markdown

namespace Line

section Columns

/-- The number of characters `c` at the start of a text. -/
def run (c : Char) (t : Text) : Nat :=
  (t.takeWhile (· == c)).length

/-- The number of spaces in front of a line. -/
def spaces (l : Text) : Nat :=
  run ' ' l

/-- The number of columns of the spaces and tabs in front of a text that begins at a column. -/
def gapWidth (column : Nat) : Text → Nat
  | ' ' :: t => gapWidth (column + 1) t + 1
  | '\t' :: t => gapWidth (column + (4 - column % 4)) t + (4 - column % 4)
  | _ => 0

/-- A text that begins at a column, with spaces in place of the tabs in front. -/
def expand (column : Nat) (l : Text) : Text :=
  List.replicate (gapWidth column l) ' ' ++ l.dropWhile Target.isGap

/-- The line with `width n` spaces in place of a first tab behind `n` spaces, of at most three. -/
def replaceTab (width : Nat → Nat) (l : Text) : Text :=
  let n := spaces l
  match l.drop n with
  | '\t' :: rest => if n ≤ 3 then List.replicate (width n) ' ' ++ rest else l
  | _ => l

/-- The line with spaces up to a column in place of a first tab. -/
def fillTab (column : Nat) (l : Text) : Text :=
  replaceTab (max column) l

/-- The line with four spaces in place of a first tab. -/
def widenTab (l : Text) : Text :=
  replaceTab (· + 4) l

/-- The line without up to `n` of the spaces in front. -/
def dropSpaces (n : Nat) (l : Text) : Text :=
  l.drop (min n (spaces l))

/-- Whether nothing can be seen on the line. -/
def isBlank (l : Text) : Bool :=
  l.all fun c => Target.isGap c || c == '\x0b' || c == '\x0c'

/-- Whether the line is indented like code: by four spaces or a tab, with more behind them. -/
def isIndented (l : Text) : Bool :=
  let n := spaces l
  5 ≤ l.length && 4 ≤ n ||
    match l.drop n with
    | '\t' :: _ :: _ => true
    | _ => false

end Columns

section Marks

/-- What follows the spaces in front of a line, when there are at most `room` of them. -/
def body? (room : Nat) (l : Text) : Option Text :=
  if spaces l ≤ room then some (l.drop (spaces l)) else none

/-- The fence of a block of code. -/
structure Fence where
  /-- The number of spaces before it. -/
  indent : Nat
  /-- The character that it is made of. -/
  mark : Char
  /-- The number of these characters. -/
  size : Nat
  /-- What follows it on the line. -/
  info : Text
deriving DecidableEq, Repr

namespace Fence

/-- Whether the fence opens code: what follows backticks has no backticks. -/
def opens (f : Fence) : Bool :=
  !(f.mark == '`' && f.info.contains '`')

/-- Whether a line ends the code behind the fence. -/
def isClosedBy (f : Fence) (l : Text) : Bool :=
  (body? 3 l).any fun t =>
    let size := run f.mark t
    f.size ≤ size && (t.drop size).all Target.isGap

end Fence

/-- The fence that the line consists of. -/
def fence? (room : Nat) (l : Text) : Option Fence :=
  (body? room l).bind fun t =>
    match t with
    | [] => none
    | c :: _ =>
      let size := run c t
      if (c = '`' || c = '~') && 3 ≤ size then
        some ⟨spaces l, c, size, (t.drop size).dropWhile Target.isGap⟩
      else none

/-- The level of a heading and its text, without the marks at its end. -/
def heading? (room : Nat) (l : Text) : Option (Nat × Text) :=
  (body? room l).bind fun t =>
    let level := run '#' t
    let text := t.drop level
    if 1 ≤ level && level ≤ 6 && text.head?.all Target.isGap then
      some (level, closed (Text.trim Target.isSpacing text))
    else none
where
  /-- The text without a closing run of marks, which a blank sets off. -/
  closed (t : Text) : Text :=
    let marked := t.stripEnd
    let rest := Text.trimEnd (· == '#') marked
    if rest.length = marked.length then t
    else if rest.isEmpty || rest.getLast?.any Text.isBlank then rest.stripEnd
    else t

/-- The level that an underline gives to the paragraph above it; its last mark tells. -/
def underline? (l : Text) : Option Nat :=
  (body? 3 l).bind fun t =>
    let marks := t.takeWhile fun c => c == '=' || c == '-'
    if (t.drop marks.length).all Target.isGap then
      marks.getLast?.map fun c => if c = '=' then 1 else 2
    else none

/-- Whether the line is a divider: three marks or more of one kind, with any spaces behind them. -/
def isDivider (room : Nat) (l : Text) : Bool :=
  (body? room l).any fun t =>
    let marks := t.filter (!Target.isGap ·)
    !t.head?.any Target.isGap && 3 ≤ marks.length &&
      ['-', '_', '*'].any fun c => marks.all (· == c)

/-- What follows the mark of a quotation. -/
def quoted? (room : Nat) (l : Text) : Option Text :=
  (body? room l).bind fun t =>
    match t with
    | '>' :: rest => some rest
    | _ => none

end Marks

section Items

/-- The mark of a list item, and what follows it on its line. -/
structure Item where
  /-- The number of columns up to the end of the mark. -/
  lead : Nat
  /-- The last character of the mark. -/
  mark : Char
  /-- The number of an item of a numbered list. -/
  number : Option Nat
  /-- What follows the mark. -/
  rest : Text
deriving DecidableEq, Repr, Inhabited

/-- The number that digits of any script give. -/
def numberOf (ds : Text) : Nat :=
  ds.foldl (fun n d => 10 * n + (Text.digitValue? d).getD 0) 0

/-- The list item that the line starts; a number has at most nine digits, and a space or a tab
follows the mark, or nothing. -/
def item? (room : Nat) (l : Text) : Option Item :=
  (body? room l).bind fun t =>
    let ds := t.takeWhile Text.isDigit
    match t.drop ds.length with
    | [] => none
    | c :: rest =>
      let lead := spaces l + ds.length + 1
      if !rest.head?.all Target.isGap then none
      else if (c = '.' || c = ')') && 1 ≤ ds.length && ds.length ≤ 9 then
        some ⟨lead, c, some (numberOf ds), rest⟩
      else if (c = '*' || c = '+' || c = '-') && ds.isEmpty then some ⟨lead, c, none, rest⟩
      else none

namespace Item

/-- Whether nothing follows the mark. -/
def isEmpty (i : Item) : Bool :=
  i.rest.all Text.isBlank

/-- The spaces that may stand before a mark that ends the item. -/
def room (i : Item) : Nat :=
  min i.lead 3

/-- The first line of the content, when there is one, and the number of columns that the other
lines are indented by.  The content begins after up to four columns; behind more of them it is
indented code, and the item takes only one. -/
def content (i : Item) : List Text × Nat :=
  let width := gapWidth i.lead i.rest
  let text := i.rest.dropWhile Target.isGap
  if text.isEmpty then ([], i.lead + 1)
  else if 4 < width then ([List.replicate (width - 1) ' ' ++ text], i.lead + 1)
  else ([text], i.lead + width)

end Item

end Items

end Line

end Markdown

end ApiAtlas
