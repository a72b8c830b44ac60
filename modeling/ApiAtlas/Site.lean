import ApiAtlas.Contents
import ApiAtlas.Markdown.Html
import ApiAtlas.Page
import ApiAtlas.Store

/-!
# The documentation of a project

**Input.** A store, a configuration, and the format of the pages.

**Definitions.** A `Writer` writes pages and listings in one format; how HTML is made of Markdown
is its own, and nothing else here depends on it.  A `Site` is the documentation
of a store: in one piece, with the table of contents first, or as a folder of files, one for each
visible entity.  Two entities may share a file; the later one replaces the page but not its place
in the folder.  `lookup` lists the entities for a search index.
-/

namespace ApiAtlas

/-- Writes pages in a format. -/
structure Writer where
  /-- The format of the pages. -/
  format : Format
  /-- The language that code blocks name. -/
  language : Text
  /-- The conversion of documents, for the format that needs one. -/
  toHtml : Text → Text := Markdown.toHtml
deriving Inhabited

namespace Writer

section Defs

/-- The language that code blocks name when nothing else is said. -/
def defaultLanguage : Text :=
  "swift".toList

/-- A document in Markdown in the format of the pages. -/
def convert (w : Writer) (markdown : Text) : Text :=
  match w.format with
  | .markdown => markdown
  | .html => w.toHtml markdown

/-- The page of an entity. -/
def page (w : Writer) (minimum : Access) (e : Entity) : Text :=
  w.convert (Page.markdown w.language minimum e)

/-- The table of contents. -/
def contents (w : Writer) (layout : Layout) (minimum : Access) (es : List Entity) : Text :=
  w.convert (Contents.markdown layout w.format minimum es)

end Defs

end Writer

/-- A file of the documentation. -/
structure SiteFile where
  /-- Where the file is in the folder of the documentation. -/
  path : Text
  /-- What the file says. -/
  text : Text
deriving DecidableEq, Repr, Inhabited

/-- An entry of the search index. -/
structure LookupEntry where
  /-- The title of the entity. -/
  name : Text
  /-- The type of the entity as search indices name it. -/
  type : Text
  /-- The page of the entity. -/
  path : Text
deriving DecidableEq, Repr, Inhabited

/-- The documentation of a store. -/
structure Site where
  /-- The entities. -/
  store : Store
  /-- The configuration; it may differ from that of the store. -/
  config : Config
  /-- How pages are written. -/
  writer : Writer
deriving Inhabited

namespace Site

section Files

/-- The files with one more; a file of the same path is replaced where it stands. -/
def put (files : List SiteFile) (f : SiteFile) : List SiteFile :=
  if files.any fun g => g.path == f.path then
    files.map fun g => if g.path = f.path then f else g
  else files ++ [f]

/-- The files that come of putting one after another. -/
def putAll (files : List SiteFile) (more : List SiteFile) : List SiteFile :=
  more.foldl put files

end Files

section Defs

/-- The entities that have a page. -/
def entities (s : Site) : List Entity :=
  s.store.topLevelIndex.filter fun e => s.config.minimumAccess ≤ e.access

/-- The page of an entity. -/
def page (s : Site) (e : Entity) : Text :=
  s.writer.page s.config.minimumAccess e

/-- The table of contents. -/
def contents (s : Site) (layout : Layout) : Text :=
  s.writer.contents layout s.config.minimumAccess s.store.topLevelIndex

/-- The whole documentation in one piece. -/
def single (s : Site) : Text :=
  s.contents .singlePage ++ "\n\n".toList ++
    Text.join "\n\n\n".toList (s.entities.map s.page)

/-- Where the page of an entity is. -/
def pathOf (s : Site) (e : Entity) : Text :=
  e.link .multiPage s.writer.format

/-- The file of an entity. -/
def pageFile (s : Site) (e : Entity) : SiteFile :=
  ⟨s.pathOf e, s.page e⟩

/-- The files that do not belong to a single entity. -/
def commonFiles (s : Site) (landing : Option Text) : List SiteFile :=
  let ending := '.' :: s.writer.format.fileExtension
  ⟨"contents".toList ++ ending, s.contents .multiPage⟩ ::
    (landing.map fun t => ⟨"doclandingpage".toList ++ ending, s.writer.convert t⟩).toList

/-- The whole documentation as files; `landing` is the page to show first. -/
def files (s : Site) (landing : Option Text) : List SiteFile :=
  putAll (putAll [] (s.entities.map s.pageFile)) (s.commonFiles landing)

/-- The reports of pages that replace another; `taken` has the paths that came before. -/
def replacements (s : Site) (taken : List Text) : List Entity → List Log.Message
  | [] => []
  | e :: es =>
    let path := s.pathOf e
    if taken.contains path then
      ⟨.checks, "Page ".toList ++ path ++ " already generated, replacing it with '".toList ++
        e.title ++ ['\'']⟩ :: replacements s taken es
    else replacements s (path :: taken) es

/-- The report of writing the documentation as files. -/
def filesLog (s : Site) (landing : Option Text) : List Log.Message :=
  replacements s [] s.entities ++
    [⟨.changes, "Generated ".toList ++ Text.ofNat (s.files landing).length ++ " files".toList⟩]

/-- The entry of an entity in the search index. -/
def lookupEntry (e : Entity) : LookupEntry :=
  ⟨e.title, e.kind.lookupType, e.link .multiPage .html⟩

/-- The search index: the visible entities, by the label of their kind. -/
def lookup (s : Site) : List LookupEntry :=
  ((Contents.byKind s.store.topLevelIndex).filter fun e =>
    s.config.minimumAccess ≤ e.access).map lookupEntry

end Defs

end Site

end ApiAtlas
