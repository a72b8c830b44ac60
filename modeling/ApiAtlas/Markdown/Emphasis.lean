import ApiAtlas.Markdown.Target

/-!
# Emphasis

**Input.** The pieces of a running text, in which runs of `*` and `_` are still open questions.

**Algorithm.** The pieces are taken from left to right.  A run that can close looks back for the
nearest run that it can close: one of the same mark that can open, where a run that could do both
does not pair with one when their sizes add up to a multiple of three, unless both are such
multiples.  The two give up two marks each for strong text, or one each for emphasis, and what
is between them becomes one piece; marks that are left look for partners again.  Runs without a
partner are plain text, and so are the marks around what is nested too deeply already.

**Definitions.** An `Inline` is one piece of running text.  Whether a run can open or close is told
by the characters on either side of it.
-/

namespace ApiAtlas

namespace Markdown

/-- A piece of running text. -/
inductive Inline
  /-- Text in which references stand for characters. -/
  | plain (text : Text)
  /-- Characters as they are. -/
  | literal (text : Text)
  | code (text : Text)
  | lineBreak
  | emphasis (parts : List Inline)
  | strong (parts : List Inline)
  | deleted (parts : List Inline)
  | link (parts : List Inline) (target : Target)
deriving Inhabited

namespace Inline

mutual

/-- How deep emphasis is nested in a piece, where it begins. -/
def nesting : Inline → Nat
  | emphasis ps | strong ps => nestingAll ps + 1
  | _ => 0

/-- How deep emphasis is nested in pieces. -/
def nestingAll : List Inline → Nat
  | [] => 0
  | p :: ps => max p.nesting (nestingAll ps)

end

/-- The deepest nesting of emphasis. -/
def deepestNesting : Nat :=
  20

end Inline

/-- A run of marks. -/
structure MarkRun where
  /-- The mark. -/
  mark : Char
  /-- The number of marks that have no partner yet. -/
  size : Nat
  /-- The number of marks at first. -/
  whole : Nat
  /-- Whether the run can open emphasis. -/
  opens : Bool
  /-- Whether the run can close emphasis. -/
  closes : Bool
deriving DecidableEq, Repr, Inhabited

/-- A piece of running text, or a run of marks whose meaning is open. -/
inductive Piece
  | settled (i : Inline)
  | marks (r : MarkRun)
deriving Inhabited

namespace MarkRun

section Sides

/-- Whether a side of a run is blank; the ends of a text are. -/
def isBlankSide (c : Option Char) : Bool :=
  c.elim true fun c => Text.isBlank c

/-- Whether there is a mark on a side of a run. -/
def isMarkSide (c : Option Char) : Bool :=
  c.any Text.isMark

/-- Whether a run leans on the text of one side, given the characters on that side and on the
other. -/
def leansOn (side other : Option Char) : Bool :=
  !isBlankSide side && (!isMarkSide side || isBlankSide other || isMarkSide other)

/-- The run of `size` marks between two characters.  An underscore inside a word is no mark. -/
def between (mark : Char) (size : Nat) (before after : Option Char) : MarkRun :=
  let left := leansOn after before
  let right := leansOn before after
  if mark = '_' then
    ⟨mark, size, size, left && (!right || isMarkSide before), right && (!left || isMarkSide after)⟩
  else ⟨mark, size, size, left, right⟩

end Sides

section Pairs

/-- The marks of the run as plain text. -/
def asPlain (r : MarkRun) : Inline :=
  .plain (List.replicate r.size r.mark)

/-- Whether `opener` can be closed by `closer`. -/
def pairs (opener closer : MarkRun) : Bool :=
  opener.mark == closer.mark && opener.opens && closer.closes &&
    (!(opener.closes || closer.opens) || (opener.whole + closer.whole) % 3 != 0 ||
      (opener.whole % 3 == 0 && closer.whole % 3 == 0))

/-- The run without the marks that found a partner. -/
def without (r : MarkRun) (n : Nat) : MarkRun :=
  { r with size := r.size - n }

end Pairs

end MarkRun

namespace Piece

section Pairing

/-- The piece without open questions. -/
def settle : Piece → Inline
  | settled i => i
  | marks r => r.asPlain

/-- The nearest run that `closer` can close, in pieces that go from right to left: the pieces on
its right, in their order, the run, and the pieces on its left. -/
def opener? (closer : MarkRun) (inside : List Inline) :
    List Piece → Option (List Inline × MarkRun × List Piece)
  | [] => none
  | marks r :: ps =>
    if r.pairs closer then some (inside, r, ps) else opener? closer (r.asPlain :: inside) ps
  | settled i :: ps => opener? closer (i :: inside) ps

/-- The pieces, right to left, after a run; `budget` bounds the number of pairs. -/
def takeRun (budget : Nat) (r : MarkRun) (before : List Piece) : List Piece :=
  let found := (opener? r [] before).filter fun (inside, _) =>
    Inline.nestingAll inside < Inline.deepestNesting
  match budget, found with
  | n + 1, some (inside, opener, rest) =>
    let size := if 2 ≤ opener.size && 2 ≤ r.size then 2 else 1
    let made := if size = 2 then Inline.strong inside else Inline.emphasis inside
    let kept := if opener.size = size then rest else marks (opener.without size) :: rest
    if r.size = size then settled made :: kept
    else takeRun n (r.without size) (settled made :: kept)
  | _, _ => if r.opens then marks r :: before else settled r.asPlain :: before

/-- The pieces, right to left, after one more piece. -/
def take (before : List Piece) : Piece → List Piece
  | settled i => settled i :: before
  | marks r => takeRun r.size r before

/-- The pieces of a text, with emphasis in place of the runs of marks. -/
def pairUp (ps : List Piece) : List Inline :=
  (ps.foldl take []).reverse.map settle

end Pairing

end Piece

end Markdown

end ApiAtlas
