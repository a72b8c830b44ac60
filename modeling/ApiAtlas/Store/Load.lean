import ApiAtlas.Config.File
import ApiAtlas.Store
import ApiAtlas.Text.Case

/-!
# Loading payload files

**Input.** The paths of payload files.

**Definitions.** A file whose name ends in `.yaml` or `.yml` is read as YAML, any other as JSON.
`load` makes a store of all files and merges the extensions; a file that cannot be used adds
nothing but a message.
-/

namespace ApiAtlas

namespace Source

/-- The endings of YAML files. -/
def yamlSuffixes : List Text :=
  [".yaml".toList, ".yml".toList]

/-- The language of a payload file. -/
def languageOf (path : Path) : Payload.Language :=
  if yamlSuffixes.contains path.suffix.lower then .yaml else .json

variable {m : Type → Type} [Monad m] [Files m]

/-- The source files of a payload file; messages name it `shown`. -/
def ofFile (shown : Text) (path : Path) : m (Except PayloadTrouble (List Source)) := do
  match ← Files.status path with
  | .error e => pure (.error (.broken (.file e)))
  | .ok .missing => pure (.error (.refused (.fileMissing shown)))
  | .ok _ =>
    match ← Files.read path with
    | .error _ => pure (.error (.refused (.fileUnreadable shown)))
    | .ok bytes => pure (decode (languageOf path) (.bytes bytes))

end Source

namespace Store

variable {m : Type → Type} [Monad m] [Files m]

/-- Adds the entities of a payload file, or none of them when it is refused. -/
def ingestFile (s : Store) (path : Path) : m (Except Breakdown Ingested) := do
  pure (s.ingestResult (" from ".toList ++ path.toText) (← Source.ofFile path.toText path))

/-- Adds the entities of payload files, with the messages of all of them. -/
def ingestFiles (s : Store) : List Path → m (Except Breakdown (Store × List Log.Message))
  | [] => pure (.ok (s, []))
  | p :: ps => do
    match ← s.ingestFile p with
    | .error b => pure (.error b)
    | .ok r =>
      pure ((← r.store.ingestFiles ps).map fun (s, log) => (s, r.log ++ log))

/-- The store of payload files after merging, with the messages. -/
def load (config : Config) (paths : List Path) :
    m (Except Breakdown (Store × List Log.Message)) := do
  match ← (Store.empty config).ingestFiles paths with
  | .error b => pure (.error b)
  | .ok (s, log) =>
    pure (s.merge?.elim (.error .endlessMerge) fun merged => .ok (merged, log ++ s.mergeLog))

/-- The store of payload files under the configuration that is found: in a file that the caller
names, in one that the run selects, beside the first payload, or in the current folder. -/
def loadFound (named selected : Option Path) (paths : List Path) :
    m (Except ConfigTrouble (Store × List Log.Message)) := do
  match ← Config.discover named selected paths.head? with
  | .error e => pure (.error e)
  | .ok found =>
    match ← load (found.getD {}) paths with
    | .error b => pure (.error (.broken b))
    | .ok r => pure (.ok r)

end Store

end ApiAtlas
