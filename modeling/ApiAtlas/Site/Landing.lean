import ApiAtlas.Files
import ApiAtlas.Text.Case

/-!
# The landing page

**Definitions.** The page to show first is a file that the project keeps in its root folder: one
made for this purpose, else its read-me file.  Letter case in the names does not matter.
-/

namespace ApiAtlas

namespace Landing

/-- The names of landing pages, best first. -/
def pageNames : List Text :=
  ["doclandingpage.md".toList, "readme.md".toList, "readme".toList]

/-- The best landing page among files, by their names; of two names that differ in letter case
alone the later one counts. -/
def best (names : List Text) : Option Text :=
  pageNames.findSome? fun wanted => names.reverse.find? fun n => n.lower == wanted

variable {m : Type → Type} [Monad m] [Files m]

/-- The names among these that are files in the folder. -/
def filesOf (folder : Path) : List Text → m (List Text)
  | [] => pure []
  | n :: ns => do
    let rest ← filesOf folder ns
    match ← Files.status (folder ++ Path.mk .relative [n]) with
    | .ok .file => pure (n :: rest)
    | _ => pure rest

/-- The landing page in a folder, when there is one. -/
def find (folder : Path) : m (Except FileError (Option Path)) := do
  match ← Files.status folder with
  | .error e => pure (.error e)
  | .ok .folder =>
    let names ← filesOf folder (← Files.names folder)
    pure (.ok ((best names).map fun n => folder ++ Path.mk .relative [n]))
  | .ok _ => pure (.ok none)

end Landing

end ApiAtlas
