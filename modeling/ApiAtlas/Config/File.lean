import ApiAtlas.Breakdown
import ApiAtlas.Config
import ApiAtlas.Payload.Decode

/-!
# Configuration files

**Input.** A file in YAML, or the places where one may be.

**Definitions.** A configuration file holds the entries of a configuration; an empty file leaves
everything out.  The root folder of the project is seen from the folder of the file.  `discover`
takes the first file that is there: the one that the caller names, the one that the run selects,
the one beside the payload, the one in the current folder.
-/

namespace ApiAtlas

/-- Why a configuration file is refused. -/
inductive ConfigError
  /-- There is no file. -/
  | missing (path : Path)
  /-- The file is not in YAML. -/
  | unparsable
  /-- The file holds something other than entries. -/
  | notObject
  /-- Some entries are faulty. -/
  | faulty (faults : List Fault)
deriving DecidableEq, Repr

/-- Why no configuration was read: it is refused, or the run breaks down over it. -/
inductive ConfigTrouble
  | refused (e : ConfigError)
  | broken (b : Breakdown)
deriving DecidableEq, Repr

namespace ConfigError

/-- What is said about a refused configuration file. -/
def message : ConfigError → Text
  | missing path => "Config file not found: ".toList ++ path.toText
  | unparsable => "Failed to parse config YAML".toList
  | notObject => "Config must contain a mapping at the root level".toList
  | faulty _ => "Invalid config".toList

end ConfigError

namespace Config

section Reading

/-- The configuration of the text of a file. -/
def ofText (t : Text) : Except ConfigTrouble Config :=
  match Payload.decode .yaml (.text t) with
  | .error .unreadable => .error (.refused .unparsable)
  | .error (.defective d) => .error (.broken (.defective d))
  | .ok v =>
    match v.content with
    | .null => .ok {}
    | .object es =>
      match check es with
      | .ok c => .ok c
      | .faulty fs => .error (.refused (.faulty fs))
    | _ => .error (.refused .notObject)

/-- The configuration with its root folder as seen from `folder`.  A relative root has to be one
that files could have. -/
def rootedAt (folder : Path) (c : Config) : Except ConfigTrouble Config :=
  match c.projectRoot with
  | none => .ok c
  | some r =>
    if r.isAbsolute then .ok c
    else
      match r.characterError? with
      | some e => .error (.broken (.file e))
      | none => .ok { c with projectRoot := some (folder.resolve r) }

end Reading

section Finding

variable {m : Type → Type} [Monad m] [Files m]

/-- The configuration of a file. -/
def load (path : Path) : m (Except ConfigTrouble Config) := do
  match ← Files.status path with
  | .error e => pure (.error (.broken (.file e)))
  | .ok .missing => pure (.error (.refused (.missing path)))
  | .ok _ =>
    match ← Files.readText path with
    | .error e => pure (.error (.broken (.file e)))
    | .ok t =>
      let folder := (← Files.here) ++ path.parent
      pure ((ofText t).bind (rootedAt folder))

/-- The name of configuration files. -/
def fileName : Path :=
  .ofText "docforest_config.yaml".toList

/-- The places where a configuration file may be, best first. -/
def places (named selected payload : Option Path) : List Path :=
  named.toList ++ selected.toList ++ (payload.map fun p => p.parent ++ fileName).toList ++
    [fileName]

/-- The configuration of the first file that is there, when there is one. -/
def discover (named selected payload : Option Path) : m (Except ConfigTrouble (Option Config)) := do
  match ← Files.firstPresent (places named selected payload) with
  | .error e => pure (.error (.broken (.file e)))
  | .ok none => pure (.ok none)
  | .ok (some path) => pure ((← load path).map some)

end Finding

end Config

end ApiAtlas
