import ApiAtlas.Entity
import ApiAtlas.Log

/-!
# Folding extensions into the types of the project

**Input.** The top level of the forest: a list of entity trees.

**Algorithm.** An extension at the top level is hosted by the classes, structs, enums and
protocols with its title, wherever they stand in the forest: by all of them, or only by the first
in depth-first order.  A hosted extension leaves the top level, and a host takes up its
extensions in the order of the top level, each rebuilt in the same way, because an extension may
itself contain hosts.

Whether an entity is the first of its title depends on its place only through the titles of the
hosts before it, so the recursion carries these titles along.

**Identity.** Followed through members, every entity of the forest is at one place.  So a table of
the extensions attached to each host, under the identity of the host, is given by places and
titles: the hosts of an extension are those with its title, and where only the first of them
counts, `before` tells which one that is.  A forest that lists one and the same entity as a member
of two others, or twice at the top level, has no counterpart here; neither records nor merging make
one.  Whether a tree is made anew or taken over does not show: trees are values, and a tree that
takes up nothing at any depth is rebuilt as itself.

**Results.** `internal?` has no result exactly when rebuilding meets more extensions inside each
other than there are trees, that is, when hosted extensions contain each other in a circle that a
remaining tree reaches.
-/

namespace ApiAtlas

namespace Merge

section Defs

/-- The titles of all hosts in a list of trees, depth first. -/
def hostTitles (docs : List Entity) : List Text :=
  ((Entity.flatten docs).filter Entity.extendable).map Entity.title

/-- Whether an entity takes up the extensions of its title, given the titles of the hosts before
it: every host does, or only the first of its title. -/
def receives (everywhere : Bool) (before : List Text) (p : Profile) : Bool :=
  p.kind.extendable && (everywhere || !before.contains p.title)

/-- The titles of the hosts up to and including an entity. -/
def including (before : List Text) (p : Profile) : List Text :=
  if p.kind.extendable then before ++ [p.title] else before

mutual

/-- An entity with the extensions that it and everything nested in it take up.  `supply` gives
the rebuilt extensions of a title, and `before` the titles of the hosts before the entity. -/
def rebuild (everywhere : Bool) (supply : Text → Option (List Entity)) (before : List Text) :
    Entity → Option Entity
  | .node p cs es =>
    match rebuildAll everywhere supply (including before p) cs with
    | none => none
    | some cs' =>
      if receives everywhere before p then
        (supply p.title).map fun more => .node p cs' (es ++ more)
      else some (.node p cs' es)

/-- The entities of a list, rebuilt one after another. -/
def rebuildAll (everywhere : Bool) (supply : Text → Option (List Entity)) (before : List Text) :
    List Entity → Option (List Entity)
  | [] => some []
  | c :: cs =>
    match rebuild everywhere supply before c,
      rebuildAll everywhere supply (before ++ hostTitles [c]) cs with
    | some c', some cs' => some (c' :: cs')
    | _, _ => none

end

/-- Each tree with the titles of the hosts before it. -/
def placed (before : List Text) : List Entity → List (List Text × Entity)
  | [] => []
  | d :: ds => (before, d) :: placed (before ++ hostTitles [d]) ds

/-- Whether a tree is an extension from a record with the given title. -/
def isExtensionOf (title : Text) (d : Entity) : Bool :=
  d.isSourceExtension && d.title == title

/-- Whether a tree is an extension that some host of the forest takes up. -/
def isHosted (docs : List Entity) (d : Entity) : Bool :=
  d.isSourceExtension && (hostTitles docs).contains d.title

/-- The rebuilt extensions of a title, for at most `depth` extensions inside each other. -/
def supply (everywhere : Bool) (docs : List Entity) : (depth : Nat) → Text →
    Option (List Entity)
  | 0, title => if docs.any (isExtensionOf title) then none else some []
  | depth + 1, title =>
    ((placed [] docs).filter fun (_, d) => isExtensionOf title d).mapM fun (before, d) =>
      rebuild everywhere (supply everywhere docs depth) before d

/-- The top level after each hosted extension has moved to its hosts. -/
def internal? (everywhere : Bool) (docs : List Entity) : Option (List Entity) :=
  ((placed [] docs).filter fun (_, d) => !isHosted docs d).mapM fun (before, d) =>
    rebuild everywhere (supply everywhere docs docs.length) before d

/-- The hosts that an extension is folded into. -/
def hostsOf (everywhere : Bool) (docs : List Entity) (title : Text) : List Entity :=
  let hosts := (Entity.flatten docs).filter fun e => e.extendable && e.title == title
  if everywhere then hosts else hosts.take 1

/-- The report of one extension that is folded into one host. -/
def foldingMessage (extension host : Entity) : Log.Message :=
  ⟨.checks, "Extension '".toList ++ extension.title ++ "' from ".toList ++
    extension.profile.sourceFile ++ " matches ".toList ++ host.kind.label ++ " '".toList ++
    host.title ++ "'".toList⟩

/-- The report of the whole pass; nothing is reported when no extension is hosted. -/
def internalLog (everywhere : Bool) (docs : List Entity) : List Log.Message :=
  let foldings := (docs.filter Entity.isSourceExtension).flatMap fun x =>
    (hostsOf everywhere docs x.title).map (foldingMessage x)
  let count := (docs.filter (isHosted docs)).length
  if count = 0 then foldings
  else
    foldings ++ [⟨.changes, "Merged ".toList ++ Text.ofNat count ++
      " extension(s) into in-project types".toList⟩]

end Defs

section Laws

theorem isExtensionOf_iff {title : Text} {d : Entity} :
    isExtensionOf title d = true ↔ d.isSourceExtension = true ∧ d.title = title := by
  rw [isExtensionOf, Bool.and_eq_true, beq_iff_eq]

end Laws

end Merge

end ApiAtlas
