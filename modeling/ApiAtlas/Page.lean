import ApiAtlas.Entity
import ApiAtlas.Markup.Build

/-!
# The page of an entity

**Input.** An entity, the least access level that is shown, and the language that code blocks
name.

**Definitions.** A page says what the entity is and how it is declared, and then lists its members
and the extensions attached to it, each in a section of its own.  What is below the level is left
out, and so is a section without entries.
-/

namespace ApiAtlas

namespace Page

open Markup

section Defs

/-- The declaration of an entity as a block of code. -/
def declaration (language : Text) (e : Entity) : Node :=
  codeBlock e.profile.declaration language 0

/-- The bullet of a member: its title, with its kind, declaration and comment below. -/
def member (language : Text) (e : Entity) : Node :=
  bullet (describe (bold e.title))
    [paragraph (describe (italics e.kind.label)) 0, declaration language e,
      paragraph e.profile.documentation 0] 0

/-- The bullets of the members that are shown. -/
def members (language : Text) (minimum : Access) (e : Entity) : List Node :=
  (e.visibleChildren minimum).map (member language)

/-- The heading of an extension: its title and the file that declares it. -/
def extensionTitle (e : Entity) : Text :=
  match e.profile.sourceFile with
  | [] => e.title
  | file => e.title ++ " (".toList ++ file ++ [')']

/-- What the page says of an extension. -/
def extension (language : Text) (minimum : Access) (e : Entity) : List Node :=
  [heading 5 (extensionTitle e), declaration language e] ++
    ((Profile.firstGiven [e.profile.comment]).toList.map fun c => paragraph c 0) ++
    members language minimum e

/-- What the page says of the extensions that are shown. -/
def extensions (language : Text) (minimum : Access) (e : Entity) : List Node :=
  (e.visibleExtensions minimum).flatMap (extension language minimum)

/-- A part of the page under a heading of its own; nothing when it has no entries. -/
def titled (title : String) (entries : List Node) : List Node :=
  if entries.isEmpty then [] else divider :: heading 4 title.toList :: entries

/-- The parts of a page. -/
def parts (language : Text) (minimum : Access) (e : Entity) : List Node :=
  [heading 2 e.title, italics e.kind.label, declaration language e,
    paragraph e.profile.documentation 0] ++
    titled "Members" (members language minimum e) ++
    titled "Extensions" (extensions language minimum e)

/-- The page of an entity in Markdown. -/
def markdown (language : Text) (minimum : Access) (e : Entity) : Text :=
  finalize (document (parts language minimum e))

end Defs

end Page

end ApiAtlas
