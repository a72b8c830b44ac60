import ApiAtlas.Access
import ApiAtlas.Kind
import ApiAtlas.NameSet
import ApiAtlas.Output
import ApiAtlas.Slug

/-!
# Documented entities

**Input.** The declarations of a project, each with the declarations nested in it.

**Definitions.** A `Profile` is what an entity says of itself; an `Entity` adds the entities
nested in it and the extensions attached to it.  `walk` lists an entity and everything nested in
it, depth first; extensions are not part of it.  `sameAs` compares what entities document: their
extensions, and the two declarations beyond the effective one, do not take part.

**Results.** Two equations open each traversal (`walk_node`, `flatten_cons`), and a flattened
list of trees is the concatenation of the parts (`flatten_append`).
-/

namespace ApiAtlas

/-- What an entity says of itself, apart from what is nested in it. -/
structure Profile where
  /-- The full title, with the titles of the enclosing declarations. -/
  title : Text
  /-- How far the entity is visible. -/
  access : Access
  /-- The documentation comment. -/
  comment : Option Text
  /-- The file that declares the entity. -/
  sourceFile : Text
  /-- The kind of declaration. -/
  kind : Kind
  /-- The attributes of the declaration. -/
  attributes : NameSet
  /-- The declaration as the documentation gives it. -/
  docDeclaration : Option Text
  /-- The declaration as it was parsed. -/
  parsedDeclaration : Option Text
  /-- Whether the entity was made up to group extensions. -/
  synthetic : Bool
deriving DecidableEq, Inhabited

/-- An entity with the entities nested in it and the extensions attached to it. -/
inductive Entity
  | node (profile : Profile) (children extensions : List Entity)
deriving Inhabited

/-- The declaration that is shown when an entity has none. -/
def noDeclaration : Text :=
  "no declaration".toList

/-- The comment that is shown when an entity has none. -/
def noDocumentation : Text :=
  "No documentation".toList

namespace Profile

section Defs

/-- The text without blanks and an equals sign at its end; a final line break stays. -/
def dropDanglingAssignment (t : Text) : Text :=
  match t.reverse with
  | '=' :: b :: r => if Text.isBlank b then (r.dropWhile Text.isBlank).reverse else t
  | '\n' :: '=' :: b :: r =>
    if Text.isBlank b then ('\n' :: r.dropWhile Text.isBlank).reverse else t
  | _ => t

/-- Whether the declaration is marked as lazy. -/
def isLazy (p : Profile) : Bool :=
  "lazy".toList ∈ p.attributes

/-- The first of the texts that is there and not empty. -/
def firstGiven : List (Option Text) → Option Text
  | [] => none
  | some (c :: t) :: _ => some (c :: t)
  | _ :: ts => firstGiven ts

/-- The declaration to show.  The parsed one comes first, except for lazy declarations, whose
documented form is more faithful. -/
def declaration (p : Profile) : Text :=
  let candidates :=
    if p.isLazy then [p.docDeclaration, p.parsedDeclaration]
    else [p.parsedDeclaration, p.docDeclaration]
  dropDanglingAssignment ((firstGiven candidates).getD noDeclaration)

/-- The comment to show. -/
def documentation (p : Profile) : Text :=
  (firstGiven [p.comment]).getD noDocumentation

/-- The link to the page of an entity: an anchor on a single page, or a file in the folder of
its kind. -/
def link (p : Profile) (layout : Layout) (format : Format) : Text :=
  match layout with
  | .singlePage => '#' :: p.title.lowerSlug
  | .multiPage =>
    p.kind.label.lowerSlug ++ '/' :: p.title.slug ++ '.' :: format.fileExtension

/-- Whether the entity is an extension that came from a record. -/
def isSourceExtension (p : Profile) : Bool :=
  p.kind == Kind.extensionOf && !p.synthetic

end Defs

end Profile

namespace Entity

section Defs

/-- What the entity says of itself. -/
def profile : Entity → Profile
  | node p _ _ => p

/-- The entities nested directly in it. -/
def children : Entity → List Entity
  | node _ cs _ => cs

/-- The extensions attached to it. -/
def extensions : Entity → List Entity
  | node _ _ es => es

/-- The title of the entity. -/
def title (e : Entity) : Text := e.profile.title

/-- The access level of the entity. -/
def access (e : Entity) : Access := e.profile.access

/-- The kind of the entity. -/
def kind (e : Entity) : Kind := e.profile.kind

/-- Whether the entity is an extension that came from a record. -/
def isSourceExtension (e : Entity) : Bool := e.profile.isSourceExtension

/-- Whether extensions can be folded into the entity. -/
def extendable (e : Entity) : Bool := e.kind.extendable

/-- The entity with more extensions after those it has. -/
def extendBy (e : Entity) (more : List Entity) : Entity :=
  node e.profile e.children (e.extensions ++ more)

mutual

/-- The entity followed by everything nested in it, depth first. -/
def walk : Entity → List Entity
  | node p cs es => node p cs es :: flatten cs

/-- Every entity of a list of trees, depth first. -/
def flatten : List Entity → List Entity
  | [] => []
  | e :: rest => walk e ++ flatten rest

end

mutual

/-- Whether two entities document the same thing. -/
def sameAs : Entity → Entity → Bool
  | node p cs _, node q ds _ =>
    p.title == q.title && p.access == q.access && p.comment == q.comment &&
      p.sourceFile == q.sourceFile && p.kind == q.kind && sameAsAll cs ds &&
      p.attributes == q.attributes && p.declaration == q.declaration

/-- Whether two lists of entities document the same things in the same order. -/
def sameAsAll : List Entity → List Entity → Bool
  | [], [] => true
  | c :: cs, d :: ds => sameAs c d && sameAsAll cs ds
  | _, _ => false

end

/-- One entity of each class of entities that document the same thing, the first of its class. -/
def distinct (es : List Entity) : List Entity :=
  es.foldl (fun kept e => if kept.any (sameAs e) then kept else kept ++ [e]) []

/-- The nested entities that are visible at a level. -/
def visibleChildren (e : Entity) (minimum : Access) : List Entity :=
  e.children.filter fun c => minimum ≤ c.access

/-- The attached extensions that are visible at a level. -/
def visibleExtensions (e : Entity) (minimum : Access) : List Entity :=
  e.extensions.filter fun x => minimum ≤ x.access

/-- The link to the page of the entity. -/
def link (e : Entity) (layout : Layout) (format : Format) : Text :=
  e.profile.link layout format

/-- Titles with kinds, for the summary. -/
def mention (es : List Entity) : Text :=
  Text.join " - ".toList (es.map fun e => e.title ++ ':' :: e.kind.label)

/-- A summary of the entity on three lines. -/
def summary (e : Entity) : Text :=
  e.title ++ " (".toList ++ e.access.label ++ ") ".toList ++ e.kind.label ++
    "\n\tProperties: ".toList ++ mention e.children ++
    "\n\tExtensions: ".toList ++ mention e.extensions

end Defs

section Laws

@[simp] theorem profile_node (p : Profile) (cs es : List Entity) :
    (node p cs es).profile = p := rfl

@[simp] theorem children_node (p : Profile) (cs es : List Entity) :
    (node p cs es).children = cs := rfl

@[simp] theorem extensions_node (p : Profile) (cs es : List Entity) :
    (node p cs es).extensions = es := rfl

@[simp] theorem profile_extendBy (e : Entity) (more : List Entity) :
    (e.extendBy more).profile = e.profile := rfl

@[simp] theorem children_extendBy (e : Entity) (more : List Entity) :
    (e.extendBy more).children = e.children := rfl

@[simp] theorem extensions_extendBy (e : Entity) (more : List Entity) :
    (e.extendBy more).extensions = e.extensions ++ more := rfl

theorem walk_node (p : Profile) (cs es : List Entity) :
    walk (node p cs es) = node p cs es :: flatten cs := by
  rw [walk]

@[simp] theorem flatten_nil : flatten [] = [] := by
  rw [flatten]

@[simp] theorem flatten_cons (e : Entity) (rest : List Entity) :
    flatten (e :: rest) = walk e ++ flatten rest := by
  rw [flatten]

/-- Flattening goes list by list. -/
@[simp] theorem flatten_append (as bs : List Entity) :
    flatten (as ++ bs) = flatten as ++ flatten bs := by
  induction as with
  | nil => simp
  | cons a as ih => simp [ih]

/-- An entity comes first in its own traversal. -/
theorem walk_eq_cons (e : Entity) : walk e = e :: flatten e.children := by
  cases e with
  | node p cs es => exact walk_node p cs es

end Laws

end Entity

end ApiAtlas
