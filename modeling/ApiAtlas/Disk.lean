import ApiAtlas.Files

/-!
# A file tree as a value

**Definitions.** A `Disk` knows the files and folders by the names that lead to them from the root.
A path is followed name by name, and each name on the way has to be that of a folder; `..` leads
back to the folder around.  Names and paths have a greatest length, and some characters cannot
stand in them.
-/

namespace ApiAtlas

/-- What stands at a place of a file tree. -/
inductive DiskEntry
  | file (bytes : Bytes)
  | folder
deriving DecidableEq, Repr, Inhabited

/-- A file tree with a current folder. -/
structure Disk where
  /-- The names that lead to the current folder. -/
  current : List Text
  /-- What stands where; the root folder is not listed. -/
  entries : List (List Text × DiskEntry)
deriving DecidableEq, Repr, Inhabited

namespace Disk

section Names

/-- The greatest number of bytes in a name. -/
def maxName : Nat :=
  255

/-- The greatest number of bytes in a path. -/
def maxPath : Nat :=
  4095

/-- Whether a name is too long. -/
def isLongName (name : Text) : Bool :=
  maxName < (Encoding.encode8 name).length

/-- Why a path can lead nowhere, whatever the files. -/
def pathError? (p : Path) : Option FileError :=
  match p.characterError? with
  | some e => some e
  | none => if maxPath < (Encoding.encode8 p.toText).length then some .nameTooLong else none

end Names

section Places

/-- What stands at a place. -/
def at? (d : Disk) (place : List Text) : Option DiskEntry :=
  match place with
  | [] => some .folder
  | _ => (d.entries.find? fun e => e.1 == place).map Prod.snd

/-- The tree with an entry at a place, in place of one that is there. -/
def put (d : Disk) (place : List Text) (entry : DiskEntry) : Disk :=
  if d.entries.any fun e => e.1 == place then
    { d with
      entries := d.entries.map fun e => if e.1 = place then (place, entry) else e }
  else { d with entries := d.entries ++ [(place, entry)] }

/-- Follows names from a folder on, as far as there are folders. -/
def walk (d : Disk) (place : List Text) : List Text → Except FileError (List Text)
  | [] => .ok place
  | n :: ns =>
    match d.at? place with
    | none => .error .missing
    | some (.file _) => .error .notFolder
    | some .folder =>
      if isLongName n then .error .nameTooLong
      else d.walk (if n = ['.', '.'] then place.dropLast else place ++ [n]) ns

/-- The place where a path starts. -/
def start (d : Disk) (p : Path) : List Text :=
  if p.isAbsolute then [] else d.current

/-- The place that a path names; there is a folder around it, but nothing has to stand there. -/
def place (d : Disk) (p : Path) : Except FileError (List Text) :=
  match pathError? p with
  | some e => .error e
  | none => d.walk (d.start p) p.parts

/-- The places that names lead to one after another. -/
def way (place : List Text) : List Text → List (List Text)
  | [] => []
  | n :: ns =>
    let next := if n = ['.', '.'] then place.dropLast else place ++ [n]
    next :: way next ns

end Places

section Operations

/-- What a path leads to. -/
def status (d : Disk) (p : Path) : Except FileError Status :=
  match d.place p with
  | .error .nameTooLong => .error .nameTooLong
  | .error _ => .ok .missing
  | .ok q =>
    match d.at? q with
    | none => .ok .missing
    | some (.file _) => .ok .file
    | some .folder => .ok .folder

/-- The bytes of a file. -/
def read (d : Disk) (p : Path) : Except FileError Bytes :=
  match d.place p with
  | .error e => .error e
  | .ok q =>
    match d.at? q with
    | none => .error .missing
    | some .folder => .error .isFolder
    | some (.file bytes) => .ok bytes

/-- The names in a folder. -/
def names (d : Disk) (p : Path) : List Text :=
  match d.place p with
  | .error _ => []
  | .ok q => d.entries.filterMap fun e =>
      if e.1.dropLast = q then e.1.getLast? else none

/-- Makes a file. -/
def write (d : Disk) (p : Path) (bytes : Bytes) : Except FileError Disk :=
  match d.place p with
  | .error e => .error e
  | .ok q =>
    match d.at? q with
    | some .folder => .error .isFolder
    | _ => .ok (d.put q (.file bytes))

/-- Makes a folder at a place whose surroundings are there. -/
def makeAt (d : Disk) (q : List Text) : Except FileError Disk :=
  match d.at? q with
  | some .folder => .ok d
  | some (.file _) => .error .taken
  | none => if q.getLast?.elim false isLongName then .error .nameTooLong else .ok (d.put q .folder)

/-- Makes the folders of a way one after another; a file on the way is an error, which is another
one at its end.  A name that is too long is found on the way. -/
def makeWay (d : Disk) : List (List Text) → Except FileError Disk
  | [] => .ok d
  | q :: qs =>
    match d.makeAt q with
    | .ok d => d.makeWay qs
    | .error .taken => .error (if qs.isEmpty then .taken else .notFolder)
    | .error e => .error e

/-- Makes a folder and those around it. -/
def makeFolder (d : Disk) (p : Path) : Except FileError Disk :=
  match pathError? p with
  | some e => .error e
  | none => d.makeWay (way (d.start p) p.parts)

/-- The result of an operation that may change the tree. -/
def change (f : Disk → Except FileError Disk) : StateM Disk (Except FileError Unit) := do
  match f (← get) with
  | .error e => pure (.error e)
  | .ok d => do
    set d
    pure (.ok ())

instance : Files (StateM Disk) where
  here := do pure ⟨.root, (← get).current⟩
  status p := do pure ((← get).status p)
  read p := do pure ((← get).read p)
  names p := do pure ((← get).names p)
  write p bytes := change fun d => d.write p bytes
  makeFolder p := change fun d => d.makeFolder p

end Operations

section Making

/-- The tree with a folder at a place and those around it. -/
def withFolder (d : Disk) (q : List Text) : Disk :=
  (way [] q).foldl (fun d q => if (d.at? q).isSome then d else d.put q .folder) d

/-- The empty tree with this current folder. -/
def empty (current : List Text) : Disk :=
  withFolder ⟨current, []⟩ current

/-- The tree with a file below the current folder and the folders around it. -/
def withFile (d : Disk) (p : Path) (bytes : Bytes) : Disk :=
  let q := d.current ++ p.parts
  (d.withFolder q.dropLast).put q (.file bytes)

/-- The files below the current folder that are not in `old`, or differ from what they are there. -/
def newFiles (d old : Disk) : List (Path × Bytes) :=
  d.entries.filterMap fun (q, e) =>
    match e with
    | .file bytes =>
      if old.at? q = some (.file bytes) then none
      else (Path.relativeTo? ⟨.root, q⟩ ⟨.root, d.current⟩).map fun p => (p, bytes)
    | .folder => none

end Making

end Disk

end ApiAtlas
