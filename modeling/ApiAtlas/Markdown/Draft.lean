import ApiAtlas.Markdown.Block
import ApiAtlas.Markdown.Line

/-!
# Documents while they are read

**Definitions.** A `Draft` holds the blocks that were read so far and the link targets that were
defined.  The last paragraph of a draft is open: a line may still go on with it, or make a heading
of it.  The first definition of a key counts.
-/

namespace ApiAtlas

namespace Markdown

/-- The blocks and targets that were read so far. -/
structure Draft where
  /-- The blocks, last first. -/
  blocks : List Block
  /-- The targets that are defined. -/
  targets : Targets
deriving Inhabited

namespace Draft

section Defs

/-- A draft without blocks. -/
def start (ts : Targets) : Draft :=
  ⟨[], ts⟩

/-- The blocks in order. -/
def parts (d : Draft) : List Block :=
  d.blocks.reverse

/-- The draft with one more block. -/
def add (d : Draft) (b : Block) : Draft :=
  { d with blocks := b :: d.blocks }

/-- The draft with one more block before the last `n` blocks. -/
def insert (d : Draft) (n : Nat) (b : Block) : Draft :=
  { d with blocks := d.blocks.take n ++ b :: d.blocks.drop n }

/-- The draft in which a line goes on with the last paragraph. -/
def continued? (d : Draft) (l : Text) : Option Draft :=
  match d.blocks with
  | .paragraph t :: bs => some { d with blocks := .paragraph (t ++ l ++ ['\n']) :: bs }
  | _ => none

/-- The draft with one more line of text. -/
def addLine (d : Draft) (l : Text) : Draft :=
  (d.continued? l).getD (d.add (.paragraph (l ++ ['\n'])))

/-- The draft in which the last paragraph is a heading. -/
def headed? (d : Draft) (level : Nat) : Option Draft :=
  match d.blocks with
  | .paragraph t :: bs => some { d with blocks := .heading level t :: bs }
  | _ => none

/-- The draft with a target for a key, unless it has one. -/
def define (d : Draft) (key : Text) (target : Target) : Draft :=
  { d with targets := d.targets.define key target }

end Defs

end Draft

section Code

/-- The lines up to the end of fenced code, and the lines after it. -/
def fencedLines (f : Line.Fence) : List Text → List Text × List Text
  | [] => ([], [])
  | l :: ls =>
    if f.isClosedBy l then ([], ls)
    else
      let (code, rest) := fencedLines f ls
      (l :: code, rest)

/-- Fenced code: its lines are indented at most like the fence. -/
def fencedCode (f : Line.Fence) (ls : List Text) : Block :=
  .code (ls.flatMap fun l => Line.dropSpaces f.indent l ++ ['\n']) (unescape f.info).strip

/-- The lines of indented code, with the blank lines in it and behind it, and the lines after
them. -/
def indentedLines (ls : List Text) : List Text × List Text :=
  ls.span fun l => Line.isIndented l || l.all Target.isGap

/-- Indented code, without the empty lines around it. -/
def indentedCode (ls : List Text) : Block :=
  let text := Text.join ['\n'] (ls.map fun l => Line.dropSpaces 4 (Line.fillTab 4 l))
  .code (Text.trim (· == '\n') text) []

end Code

end Markdown

end ApiAtlas
