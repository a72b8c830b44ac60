import ApiAtlas.Path
import ApiAtlas.Payload.Encoding

/-!
# Access to files

**Definitions.** What a run needs to do with files, as operations of a monad: the same code then
runs on the files of a computer and on a file tree that is a plain value.  A relative path starts
at the current folder.
-/

namespace ApiAtlas

/-- What a path leads to. -/
inductive Status
  | missing
  | file
  | folder
deriving DecidableEq, Repr, Inhabited

/-- Why a file cannot be used. -/
inductive FileError
  /-- There is no such file, or no folder for it. -/
  | missing
  /-- A folder stands where a file should be. -/
  | isFolder
  /-- A file stands where a folder should be on the way. -/
  | notFolder
  /-- A file stands where a folder is to be made. -/
  | taken
  /-- The bytes of the file are no text. -/
  | notText
  /-- A name on the way, or the whole path, is too long. -/
  | nameTooLong
  /-- The path holds a zero character. -/
  | zeroInName
  /-- A path or a text holds half of a character, which no bytes stand for. -/
  | halfInText
deriving DecidableEq, Repr, Inhabited

/-- Operations on files. -/
class Files (m : Type → Type) where
  /-- The current folder, as an absolute path. -/
  here : m Path
  /-- What a path leads to.  A path that cannot be one leads nowhere, but one that is too long is
  an error. -/
  status : Path → m (Except FileError Status)
  /-- The bytes of a file. -/
  read : Path → m (Except FileError Bytes)
  /-- The names in a folder. -/
  names : Path → m (List Text)
  /-- Makes a file of these bytes, in place of one that is there. -/
  write : Path → Bytes → m (Except FileError Unit)
  /-- Makes a folder and those around it, as far as they are missing. -/
  makeFolder : Path → m (Except FileError Unit)

namespace Path

/-- Whether a character is a half that may stand for a byte in a path. -/
def isByteHalf (c : Char) : Bool :=
  0xDC80 ≤ Text.codePoint c && Text.codePoint c ≤ 0xDCFF

/-- Why the characters of a path cannot stand in one. -/
def characterError? (p : Path) : Option FileError :=
  let t := p.toText
  if t.any fun c => Text.isHalf c && !isByteHalf c then some .halfInText
  else if t.contains '\x00' then some .zeroInName
  else none

end Path

namespace Files

section Defs

variable {m : Type → Type} [Monad m] [Files m]

/-- The text of a file, with its line breaks in the one-character form. -/
def readText (p : Path) : m (Except FileError Text) := do
  match ← read p with
  | .error e => pure (.error e)
  | .ok bytes => pure ((Encoding.text? bytes).elim (.error .notText) (.ok ∘ Text.unifyBreaks))

/-- Makes a file of this text.  A file that is there is emptied first, even when the text cannot be
written. -/
def writeText (p : Path) (t : Text) : m (Except FileError Unit) := do
  if t.any Text.isHalf then
    match ← write p [] with
    | .error e => pure (.error e)
    | .ok () => pure (.error .halfInText)
  else write p (Encoding.encode8 t)

/-- The first of the paths that leads anywhere. -/
def firstPresent : List Path → m (Except FileError (Option Path))
  | [] => pure (.ok none)
  | p :: ps => do
    match ← status p with
    | .error e => pure (.error e)
    | .ok .missing => firstPresent ps
    | .ok _ => pure (.ok (some p))

end Defs

end Files

end ApiAtlas
