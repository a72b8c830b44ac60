import ApiAtlas.Markdown.Draft
import ApiAtlas.Markdown.Excerpt

/-!
# Blocks from lines

**Input.** The lines of a document, or of a quotation or an item in it.

**Algorithm.** At each line the kinds of blocks are tried in a fixed order; a line that starts none
of them is a line of a paragraph.  The lines of a quotation or an item are gathered first and then
read as a document of their own.  A line that ends a quotation or a list by starting a block beside
it is read at once, before what it ends takes its place; so such a line may still go on with a
paragraph above.

**Definitions.** Quotations and lists nest up to a limit: at `deepest` levels the content of a
quotation has no quotations, and the content of a list no lists.
-/

namespace ApiAtlas

namespace Markdown

/-- The kinds of nested blocks that may start. -/
structure Rules where
  /-- Whether quotations may start. -/
  quotations : Bool
  /-- Whether lists may start. -/
  lists : Bool
deriving DecidableEq, Repr

/-- A level of nested blocks. -/
structure Level where
  /-- What may start. -/
  rules : Rules
  /-- Whether the level is the deepest one. -/
  isDeepest : Bool
  /-- How the lines of a quotation or an item are read. -/
  inside : Rules → Targets → List Text → Draft

namespace Level

section Nested

/-- The draft with the targets that are defined in a nested block, and the parts of that block. -/
def nest (v : Level) (rules : Rules) (d : Draft) (ls : List Text) : Draft × List Block :=
  let inner := v.inside rules d.targets ls
  ({ d with targets := inner.targets }, inner.parts)

/-- What may start in a quotation. -/
def inQuotation (v : Level) : Rules :=
  ⟨!v.isDeepest, true⟩

/-- What may start in an item. -/
def inItem (v : Level) : Rules :=
  ⟨true, !v.isDeepest⟩

/-- The draft after fenced code, and the lines after it. -/
def fenced (d : Draft) (f : Line.Fence) (ls : List Text) : Draft × List Text :=
  let (code, rest) := fencedLines f ls
  (d.add (fencedCode f code), rest)

/-- The draft after blank lines, and the lines after them. -/
def blank (d : Draft) (ls : List Text) : Draft × List Text :=
  (d.add .gap, ls.dropWhile Line.isBlank)

/-- Whether an item cannot end a paragraph: one without content, or with a number other than one. -/
def isMild (i : Line.Item) : Bool :=
  i.isEmpty || i.number.any (· != 1)

mutual

/-- The draft after a quotation, and the lines after it.  `budget` bounds the number of steps; the
blocks here take at most three for each line. -/
def quotation (v : Level) (budget : Nat) (d : Draft) (rest : Text) (ls : List Text) :
    Draft × List Text :=
  let e := Quotation.excerpt rest ls
  match budget, e.ending with
  | n + 1, .cut =>
    let (d, rest) := v.beside n d e.rest
    let (d, parts) := v.nest v.inQuotation d e.lines
    (d.insert 1 (.quotation parts), rest)
  | _, _ =>
    let (d, parts) := v.nest v.inQuotation d e.lines
    (d.add (.quotation parts), e.rest)

/-- The draft after an item and those that follow it, the parts of the items, whether blank lines
stand between them, and the lines after them. -/
def items (v : Level) (budget : Nat) (d : Draft) (i : Line.Item) (ls : List Text) :
    Draft × List (List Block) × Bool × List Text :=
  let e := i.excerpt ls
  match budget, e.ending with
  | n + 1, .cut =>
    let (d, rest) := v.beside n d e.rest
    let (d, parts) := v.nest v.inItem d e.lines
    (d, [parts], false, rest)
  | n + 1, .item j spaced =>
    let (d, parts) := v.nest v.inItem d e.lines
    let (d, more, spacedMore, rest) := v.items n d j e.rest
    (d, parts :: more, spaced || spacedMore, rest)
  | _, _ =>
    let (d, parts) := v.nest v.inItem d e.lines
    (d, [parts], false, e.rest)

/-- The draft after the list that an item starts, and the lines after it.  The list takes its place
before the block that ended it. -/
def list (v : Level) (budget : Nat) (d : Draft) (i : Line.Item) (l : Text) (ls : List Text) :
    Draft × List Text :=
  match budget, if isMild i then d.continued? l else none with
  | _, some d => (d, ls)
  | 0, none => (d.addLine l, ls)
  | n + 1, none =>
    let (after, parts, spaced, rest) := v.items n d i ls
    let added := after.blocks.length - d.blocks.length
    (after.insert added (.ofItems i.number spaced parts), rest)

/-- The draft after the block that ends a quotation or a list, and the lines after it. -/
def beside (v : Level) (budget : Nat) (d : Draft) (ls : List Text) : Draft × List Text :=
  match budget, ls with
  | 0, _ | _, [] => (d, ls)
  | n + 1, l :: rest =>
    if Line.isBlank l then blank d ls
    else if Line.isDivider 3 l then (d.add .divider, rest)
    else
      match Line.fence? 3 l, Line.heading? 3 l, Line.quoted? 3 l, Line.item? 3 l with
      | some f, _, _, _ => fenced d f rest
      | _, some (level, text), _, _ => (d.add (.heading level text), rest)
      | _, _, some said, _ => v.quotation n d said rest
      | _, _, _, some i => v.list n d i l rest
      | _, _, _, _ => (d.addLine l, rest)

end

end Nested

section Reading

/-- The draft after the definition of a target, and the lines after it. -/
def definition? (d : Draft) (ls : List Text) : Option (Draft × List Text) :=
  (Target.definition? (ls.flatMap fun l => l ++ ['\n'])).map fun ((key, target), rest) =>
    (d.define key target, (rest.pieces '\n').dropLast)

/-- The draft after a line of text, or after the definition that it starts, and the lines after
them. -/
def textOr (d : Draft) (l : Text) (ls : List Text) : Draft × List Text :=
  if d.blocks.head?.any Block.isParagraph || !(Line.body? 3 l).any (·.head? == some '[') then
    (d.addLine l, ls)
  else (definition? d (l :: ls)).getD (d.addLine l, ls)

/-- The draft after the block that starts with a line, and the lines after it. -/
def step (v : Level) (budget : Nat) (d : Draft) (l : Text) (ls : List Text) : Draft × List Text :=
  let quoted := if v.rules.quotations then Line.quoted? 3 l else none
  let item := if v.rules.lists then Line.item? 3 l else none
  match Line.fence? 3 l with
  | some f => if f.opens then fenced d f ls else (d.addLine l, ls)
  | none =>
    if Line.isIndented l then
      match d.continued? l with
      | some d => (d, ls)
      | none =>
        let (code, rest) := indentedLines (l :: ls)
        (d.add (indentedCode code), rest)
    else
      match Line.heading? 3 l, (Line.underline? l).bind d.headed? with
      | some (level, text), _ => (d.add (.heading level text), ls)
      | none, some d => (d, ls)
      | none, none =>
        if Line.isDivider 3 l then (d.add .divider, ls)
        else
          match quoted, item with
          | some said, _ => v.quotation budget d said ls
          | none, some i => v.list budget d i l ls
          | none, none => if Line.isBlank l then blank d ls else textOr d l ls

/-- The draft after all lines; `budget` bounds the number of blocks. -/
def read (v : Level) : (budget : Nat) → Draft → List Text → Draft
  | n + 1, d, l :: ls =>
    let (d, rest) := v.step (3 * ls.length + 3) d l ls
    v.read n d rest
  | _, d, _ => d

end Reading

end Level

section Documents

/-- The number of levels of quotations and lists. -/
def deepest : Nat :=
  20

/-- The lines of a block inside `depth` others; `budget` bounds the depth. -/
def readInside : (budget depth : Nat) → Rules → Targets → List Text → Draft
  | 0, _, _, ts, _ => .start ts
  | n + 1, depth, rules, ts, ls =>
    let v : Level := ⟨rules, deepest ≤ depth + 1, readInside n (depth + 1)⟩
    v.read ls.length (.start ts) ls

/-- The lines of a text; a line break at its end ends the last line. -/
def linesOf (t : Text) : List Text :=
  let u := Text.unifyBreaks t
  if Text.endsWith '\n' u then (u.pieces '\n').dropLast else u.pieces '\n'

/-- The blocks of a document and the targets that it defines.  A nested block has fewer marks than
the one around it, so the length of the document bounds the depth. -/
def outline (t : Text) : List Block × Targets :=
  let d := readInside (t.length + 1) 0 ⟨true, true⟩ [] (linesOf t)
  (d.parts, d.targets)

end Documents

end Markdown

end ApiAtlas
