import ApiAtlas.Text.Basic

/-!
# Paths

**Input.** The text of a file path with `/` between its parts.

**Definitions.** A path is read without looking at any file: empty parts and parts `.` vanish,
parts `..` stay, and the path is relative, starts at the root, or starts at the second root that
exactly two slashes name.  `resolve` removes the parts `..` of an absolute path.
-/

namespace ApiAtlas

/-- Where a path starts. -/
inductive Anchor
  | relative
  | root
  | doubleRoot
deriving DecidableEq, Repr

/-- A path: where it starts and the names that lead on from there. -/
structure Path where
  /-- Where the path starts. -/
  anchor : Anchor
  /-- The names from the start on. -/
  parts : List Text
deriving DecidableEq, Repr

namespace Anchor

/-- The slashes at the start of a path. -/
def slashes : Anchor → Text
  | relative => []
  | root => ['/']
  | doubleRoot => ['/', '/']

/-- The start of a path with `n` leading slashes. -/
def ofSlashes : Nat → Anchor
  | 0 => relative
  | 2 => doubleRoot
  | _ => root

end Anchor

namespace Path

section Defs

/-- Whether a piece between slashes counts as a name. -/
def isPart (t : Text) : Bool :=
  t != [] && t != ['.']

/-- The path that a text names. -/
def ofText (t : Text) : Path :=
  { anchor := .ofSlashes (t.takeWhile (· == '/')).length
    parts := (t.pieces '/').filter isPart }

/-- The text of a path; a relative path without names is the current folder. -/
def toText (p : Path) : Text :=
  match p.anchor, p.parts with
  | .relative, [] => ['.']
  | a, ps => a.slashes ++ Text.join ['/'] ps

/-- The last name of a path, empty when there is none. -/
def name (p : Path) : Text :=
  p.parts.getLast?.getD []

/-- The path without its last name. -/
def parent (p : Path) : Path :=
  { p with parts := p.parts.dropLast }

/-- Whether the path starts at a root. -/
def isAbsolute (p : Path) : Bool :=
  p.anchor != .relative

/-- The path `q` seen from `p`; an absolute `q` stays as it is. -/
def append (p q : Path) : Path :=
  if q.isAbsolute then q else { p with parts := p.parts ++ q.parts }

instance : Append Path := ⟨append⟩

/-- The end of the last name from its last dot on, when names stand on both sides of the dot. -/
def suffix (p : Path) : Text :=
  let r := p.name.reverse
  match r.takeWhile (· != '.'), r.dropWhile (· != '.') with
  | [], _ => []
  | e, _ :: _ :: _ => '.' :: e.reverse
  | _, _ => []

/-- What remains of a path below the folder `base`, when it lies there. -/
def relativeTo? (p base : Path) : Option Path :=
  if p.anchor = base.anchor then
    (cutParts base.parts p.parts).map fun rest => ⟨.relative, rest⟩
  else none
where
  /-- The names that follow the leading names `bs`. -/
  cutParts : List Text → List Text → Option (List Text)
    | [], ps => some ps
    | _ :: _, [] => none
    | b :: bs, p :: ps => if b = p then cutParts bs ps else none

/-- The names of an absolute path with each `..` removed together with the name before it;
`done` holds the names so far, last first. -/
def climb (done : List Text) : List Text → List Text
  | [] => done.reverse
  | p :: ps => if p = ['.', '.'] then climb done.tail ps else climb (p :: done) ps

/-- The path as seen from the folder `base`, without parts `..`. -/
def resolve (base p : Path) : Path :=
  ⟨.root, climb [] (base ++ p).parts⟩

/-- The root folder of a project as it is given: no text, or an empty one, names none. -/
def rootFolder? (t : Option Text) : Option Path :=
  t.bind fun t => if t.isEmpty then none else some (ofText t)

/-- A source path as it is shown: relative to the project's root folder when it lies below it,
and otherwise unchanged. -/
def relativeSource (root : Option Path) (source : Text) : Text :=
  match root with
  | none => source
  | some base =>
    if source.isEmpty then source
    else ((ofText source).relativeTo? base).elim source toText

end Defs

end Path

end ApiAtlas
