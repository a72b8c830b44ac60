import ApiAtlas.Merge.Internal
import ApiAtlas.Text.Distinct

/-!
# Grouping extensions of other types

**Input.** The top level of the forest after the extensions of the project's own types have left
it.

**Algorithm.** Title by title, the extensions that are still at the top level move into a
container: the first container of that title that is there already, or a new one at the end.  The
members of one title stand in the order of the top level or in the opposite order.
-/

namespace ApiAtlas

namespace Merge

section Defs

/-- A new container for the extensions of a type outside the project. -/
def container (title projectTitle : Text) (members : List Entity) : Entity :=
  .node
    { title := title
      access := .openAll
      comment := some ("The following are extensions on the ".toList ++ title ++ " Type.".toList)
      sourceFile := projectTitle
      kind := Kind.extensionOf
      attributes := .empty
      docDeclaration := none
      parsedDeclaration := none
      synthetic := true }
    [] members

/-- The titles of the extensions at the top level, in the order of their first occurrence. -/
def extensionTitles (docs : List Entity) : List Text :=
  Text.distinct ((docs.filter Entity.isSourceExtension).map Entity.title)

/-- The extensions of a title at the top level. -/
def membersOf (reversed : Bool) (docs : List Entity) (title : Text) : List Entity :=
  let members := docs.filter (isExtensionOf title)
  if reversed then members.reverse else members

/-- Whether an entity is a container of the given title. -/
def isContainerOf (title : Text) (d : Entity) : Bool :=
  d.profile.synthetic && d.title == title

/-- The list with more members in its first container of the title, when it has one. -/
def extendFirst? (title : Text) (members : List Entity) : List Entity → Option (List Entity)
  | [] => none
  | d :: ds =>
    if isContainerOf title d then some (d.extendBy members :: ds)
    else (extendFirst? title members ds).map (d :: ·)

/-- The top level and the new containers, while titles are grouped one by one. -/
structure Grouping where
  /-- The entries of the top level that remain. -/
  docs : List Entity
  /-- The containers made so far. -/
  containers : List Entity

/-- The grouping after the extensions of one title have moved. -/
def Grouping.gather (projectTitle : Text) (reversed : Bool) (g : Grouping) (title : Text) :
    Grouping :=
  let members := membersOf reversed g.docs title
  let rest := g.docs.filter fun d => !isExtensionOf title d
  match extendFirst? title members rest with
  | some docs => { g with docs := docs }
  | none =>
    { docs := rest, containers := g.containers ++ [container title projectTitle members] }

/-- The top level after all its extensions have moved into containers. -/
def external (projectTitle : Text) (reversed : Bool) (docs : List Entity) : List Entity :=
  let g := (extensionTitles docs).foldl (Grouping.gather projectTitle reversed) ⟨docs, []⟩
  g.docs ++ g.containers

/-- The report of the pass: the number of extensions of each title. -/
def externalLog (docs : List Entity) : List Log.Message :=
  (extensionTitles docs).map fun title =>
    ⟨.changes, "Grouped ".toList ++ Text.ofNat (docs.filter (isExtensionOf title)).length ++
      " extension(s) on external type '".toList ++ title ++ "'".toList⟩

/-- The two choices that merging leaves open. -/
structure Options where
  /-- Whether a container holds its members in the opposite order. -/
  reverseExternalOrder : Bool
  /-- Whether an extension is folded into every host of its title, or only into the first. -/
  duplicateInternalMatches : Bool
deriving DecidableEq, Repr, Inhabited

/-- Both passes, one after the other. -/
def merge? (options : Options) (projectTitle : Text) (docs : List Entity) :
    Option (List Entity) :=
  (internal? options.duplicateInternalMatches docs).map
    (external projectTitle options.reverseExternalOrder)

/-- The report of both passes. -/
def mergeLog (options : Options) (docs : List Entity) : List Log.Message :=
  internalLog options.duplicateInternalMatches docs ++
    (internal? options.duplicateInternalMatches docs).elim [] externalLog

end Defs

end Merge

end ApiAtlas
