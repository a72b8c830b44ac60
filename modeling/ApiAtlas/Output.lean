import ApiAtlas.Text.Basic

/-!
# Shape of the output

**Definitions.** Documentation is laid out on a single page or on a page per entity, and written
in Markdown or in HTML.
-/

namespace ApiAtlas

/-- How rendered pages are laid out. -/
inductive Layout
  | singlePage
  | multiPage
deriving DecidableEq, Repr, Inhabited

/-- The format in which pages are written. -/
inductive Format
  | markdown
  | html
deriving DecidableEq, Repr, Inhabited

namespace Layout

/-- The name of a layout in configurations and on the command line. -/
def name : Layout → Text
  | singlePage => "single_page".toList
  | multiPage => "multi_page".toList

/-- The layout of a name. -/
def ofName? (t : Text) : Option Layout :=
  [singlePage, multiPage].find? fun l => l.name == t

end Layout

namespace Format

/-- The name of a format in configurations and on the command line. -/
def name : Format → Text
  | markdown => "markdown".toList
  | html => "html".toList

/-- The format of a name. -/
def ofName? (t : Text) : Option Format :=
  [markdown, html].find? fun f => f.name == t

/-- What is said about a name that no format has. -/
def unknown (name : Text) : Text :=
  "Invalid output format: '".toList ++ name ++ "'. Must be 'markdown' or 'html'.".toList

/-- The file extension of pages in a format. -/
def fileExtension : Format → Text
  | markdown => "md".toList
  | html => "html".toList

end Format

end ApiAtlas
