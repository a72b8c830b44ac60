import ApiAtlas.Breakdown
import ApiAtlas.Payload.Decode
import ApiAtlas.Record.Basic

/-!
# Records by source file

**Input.** A payload value: an object from source paths to records, or a list of such objects.

**Definitions.** The records of a file stand in a list, or in an object with a list of records
inside; a file without records may hold any value that counts as not given.  A payload is refused
as a whole: at the first entry that is no object, or at the first file with a faulty record.  A
list of records is refused at its first faulty record, an object with all faults inside.
-/

namespace ApiAtlas

/-- The records of one source file. -/
structure Source where
  /-- The path of the file. -/
  path : Text
  /-- The records found in it. -/
  records : List Record
deriving Inhabited

/-- Why a payload is refused. -/
inductive PayloadError
  /-- The payload cannot be read. -/
  | undecodable
  /-- The payload is neither an object nor a list. -/
  | notObjects
  /-- An entry of the payload is no object. -/
  | entryNotObject
  /-- The records of a file are faulty. -/
  | faultyRecords (path : Text) (faults : List Fault)
  /-- There is no file. -/
  | fileMissing (path : Text)
  /-- The file cannot be read. -/
  | fileUnreadable (path : Text)
deriving DecidableEq, Repr, Inhabited

/-- Why a payload gives no source files: it is refused, or the run breaks down over it. -/
inductive PayloadTrouble
  | refused (e : PayloadError)
  | broken (b : Breakdown)
deriving DecidableEq, Repr, Inhabited

namespace PayloadError

/-- What is said about a refused payload. -/
def message : PayloadError → Text
  | undecodable => "Failed to decode entity payload".toList
  | notObjects => "Entity payload must be a mapping or a list of mappings".toList
  | entryNotObject => "Each entry of the entity payload must map source paths to records".toList
  | faultyRecords path _ => "Invalid records for '".toList ++ path ++ "'".toList
  | fileMissing path => "File not found: ".toList ++ path
  | fileUnreadable path => "Failed to read ".toList ++ path

end PayloadError

namespace Source

section Defs

/-- The accepted spellings of the records inside an object. -/
def recordKeys : List Text := ["substructure".toList, "key.substructure".toList]

/-- Records of a list, up to the first faulty one. -/
def checkEach : List Value → Checked (List Record)
  | [] => .ok []
  | v :: vs =>
    match Record.check v with
    | .faulty fs => .faulty fs
    | .ok r => (checkEach vs).map (r :: ·)

/-- The records of a file. -/
def checkFile (v : Value) : Checked (List Record) :=
  match v.content with
  | .list items => checkEach items
  | .object es => Record.pick recordKeys (Record.checkEntries [] es)
  | v => if v.isGiven then .refuse .notObject else .ok []

/-- The source files of one object.  The path of a file is its key, which has to be one that can be
shown. -/
def ofEntries : Entries → Except PayloadTrouble (List Source)
  | [] => .ok []
  | (k, v) :: es =>
    if k.isShowable [] then
      match checkFile v with
      | .faulty fs => .error (.refused (.faultyRecords k.shown fs))
      | .ok rs => (ofEntries es).map (⟨k.shown, rs⟩ :: ·)
    else .error (.broken (.defective .noSuchValue))

/-- The source files of a list of objects. -/
def ofObjects : List Value → Except PayloadTrouble (List Source)
  | [] => .ok []
  | v :: vs =>
    match v.content with
    | .object es =>
      match ofEntries es with
      | .error e => .error e
      | .ok sources => (ofObjects vs).map (sources ++ ·)
    | _ => .error (.refused .entryNotObject)

/-- The source files of a payload value. -/
def ofValue (v : Value) : Except PayloadTrouble (List Source) :=
  match v.content with
  | .object es => ofEntries es
  | .list vs => ofObjects vs
  | _ => .error (.refused .notObjects)

/-- The source files of a payload. -/
def decode (language : Payload.Language) (content : Payload.Content) :
    Except PayloadTrouble (List Source) :=
  match Payload.decode language content with
  | .ok v => ofValue v
  | .error .unreadable => .error (.refused .undecodable)
  | .error (.defective d) => .error (.broken (.defective d))

end Defs

end Source

end ApiAtlas
