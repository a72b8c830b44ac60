import ApiAtlas.Markdown.Line

/-!
# Lines of a quotation or an item

**Input.** The first line of a quotation or of a list item, and the lines after it.

**Algorithm.** Lines are taken one after another as long as they belong to the block: those with
the mark of the quotation or the indentation of the item, and others that go on with its text.  A
line that does not belong ends the block.  Some of these lines start a block next to it.

**Definitions.** An `Excerpt` has the lines of the block without marks and indentation, and tells
what comes after them.
-/

namespace ApiAtlas

namespace Markdown

/-- How a quotation or an item ends. -/
inductive Ending
  /-- It just ends. -/
  | over
  /-- The next line starts a block beside it. -/
  | cut
  /-- The next line, which is left out, starts an item of the same list; `spaced` says that a blank
  line stands before it. -/
  | item (next : Line.Item) (spaced : Bool)
deriving DecidableEq, Repr

/-- The lines of a block, and what follows them. -/
structure Excerpt where
  /-- The lines. -/
  lines : List Text
  /-- How the block ends. -/
  ending : Ending
  /-- The lines after the block. -/
  rest : List Text
deriving DecidableEq, Repr

namespace Excerpt

/-- The excerpt with one more line in front. -/
def cons (l : Text) (e : Excerpt) : Excerpt :=
  { e with lines := l :: e.lines }

end Excerpt

namespace Quotation

section Defs

/-- What a line with the mark of a quotation says: a space behind the mark belongs to it. -/
def said (rest : Text) : Text :=
  Line.dropSpaces 1 (Line.fillTab 3 rest)

/-- Whether each line of a quotation needs its mark, given what the first one says: nothing, or
code. -/
def isStrict (l : Text) : Bool :=
  Line.isBlank l || Line.isIndented l || (Line.fence? 3 l).isSome

/-- Whether a line without a mark starts a block beside a quotation. -/
def isCut (l : Text) : Bool :=
  Line.isBlank l || Line.isDivider 3 l || ((Line.fence? 3 l).any fun f => f.opens) ||
    (Line.item? 3 l).isSome

/-- A line without a mark that goes on with a quotation; it makes no heading of the line before. -/
def carriedOn (l : Text) : Text :=
  let l := Line.fillTab 3 l
  if (Line.underline? l).isSome then List.replicate 4 ' ' ++ l else l

/-- The lines of a quotation after the first.  `strict` says that each of them needs its mark,
`afterBlank` that the line before says nothing, and `silent` that no line with a mark says anything
since the last line without one. -/
def more (strict afterBlank silent : Bool) : List Text → Excerpt
  | [] => ⟨[], .over, []⟩
  | l :: ls =>
    match Line.quoted? 3 l with
    | some rest =>
      let t := said rest
      let silent := silent && t.all Text.isBlank
      (more strict (silent || t.all Target.isGap) silent ls).cons t
    | none =>
      if strict || afterBlank then ⟨[], .over, l :: ls⟩
      else if isCut l then ⟨[], .cut, l :: ls⟩
      else (more strict false true ls).cons (carriedOn l)

/-- The lines of a quotation, given what follows the first mark. -/
def excerpt (rest : Text) (ls : List Text) : Excerpt :=
  let first := said rest
  let e := (more (isStrict first) false true ls).cons first
  { e with lines := e.lines.map Line.widenTab }

end Defs

end Quotation

namespace Line.Item

section Defs

/-- Whether a line starts a block beside an item. -/
def isCutBy (i : Item) (l : Text) : Bool :=
  isDivider i.room l || ((fence? i.room l).any fun f => f.opens) || (heading? i.room l).isSome ||
    (quoted? i.room l).isSome

/-- The next item of the list, when a line starts one. -/
def next? (i : Item) (l : Text) : Option Item :=
  (item? i.room l).filter fun j => j.mark == i.mark

/-- The lines of an item of some width after the first.  `empty` says that nothing is to be seen in
the item so far, and `afterBlank` that the line before is blank: an item begins with at most one blank
line, and a blank line ends it unless the next line is indented. -/
def more (i : Item) (width : Nat) (empty afterBlank : Bool) : List Text → Excerpt
  | [] => ⟨[], .over, []⟩
  | l :: ls =>
    if Line.isBlank l then (more i width empty true ls).cons []
    else
      let shown := expand 0 l
      if width ≤ spaces shown then
        if afterBlank && empty then ⟨[], .over, l :: ls⟩
        else (more i width (empty && l.all Text.isBlank) false ls).cons (shown.drop width)
      else if isDivider i.room l then ⟨[], .cut, l :: ls⟩
      else
        match i.next? l with
        | some j => ⟨[], .item j afterBlank, ls⟩
        | none =>
          if i.isCutBy l then ⟨[], .cut, l :: ls⟩
          else if afterBlank || (item? i.room l).isSome then ⟨[], .over, l :: ls⟩
          else (more i width (empty && l.all Text.isBlank) false ls).cons shown

/-- The lines without the blank ones at the end; a first line stays. -/
def trimmed : List Text → List Text
  | [] => []
  | l :: ls => l :: (ls.reverse.dropWhile fun l => l.all Text.isBlank).reverse

/-- The lines of an item. -/
def excerpt (i : Item) (ls : List Text) : Excerpt :=
  let (first, width) := i.content
  let e := i.more width first.isEmpty false ls
  { e with lines := trimmed (first ++ e.lines) }

end Defs

end Line.Item

end Markdown

end ApiAtlas
