import ApiAtlas.CommandLine.Run
import ApiAtlas.Disk

/-!
# The program

**Definitions.** The operations on the files of the computer, and `main`, which reads the words of
the command line, runs the request and prints its report.  Everything that decides something is in
the modules that it calls.

**Scope.** The formats are part of the library: the readers of JSON and YAML, the checks of records
and configurations, the conversion of Markdown to HTML, the reading of the command line, paths, and
the tables of letters.  Left out are help texts, the wording of usage errors, and what a message of
an error would quote from elsewhere; such a message ends where the quotation would begin.  Texts are
without the private characters that stand for halves of characters (`Text.isHalf`), and through
members an entity is at one place of its forest (`Merge.internal?`).
-/

namespace ApiAtlas

namespace Program

/-- The text of a path for the operating system. -/
def spelled (p : Path) : String :=
  String.ofList p.toText

/-- What a path leads to. -/
def status (p : Path) : IO (Except FileError Status) := do
  try
    let place ← IO.FS.realPath (spelled p)
    if ← place.isDir then pure (.ok .folder)
    else if ← place.pathExists then pure (.ok .file)
    else pure (.ok .missing)
  catch _ => pure (if p.parts.any Disk.isLongName then .error .nameTooLong else .ok .missing)

/-- Runs an operation; when it does not succeed, the error tells what stands at the path. -/
def attempt {α : Type} (p : Path) (act : IO α) : IO (Except FileError α) := do
  try pure (.ok (← act))
  catch _ =>
    match ← status p with
    | .error e => pure (.error e)
    | .ok .folder => pure (.error .isFolder)
    | .ok .file => pure (.error .taken)
    | .ok .missing =>
      match p.characterError?, ← status p.parent with
      | some e, _ => pure (.error e)
      | none, .ok .file => pure (.error .notFolder)
      | none, _ => pure (.error .missing)

instance : Files IO where
  here := do pure (.ofText (← IO.currentDir).toString.toList)
  status := status
  read p := attempt p do pure (← IO.FS.readBinFile (spelled p)).toList
  names p := do
    let place ← IO.FS.realPath (spelled p)
    pure ((← place.readDir).toList.map fun e => e.fileName.toList)
  write p bytes := attempt p (IO.FS.writeBinFile (spelled p) ⟨bytes.toArray⟩)
  makeFolder p := attempt p (IO.FS.createDirAll (spelled p))

/-- What is said about a run that ended without a report. -/
def breakdownText : Breakdown → String
  | .file .missing => "Error: no such file"
  | .file .isFolder => "Error: a directory stands where a file should be"
  | .file .notFolder => "Error: a file stands where a directory should be"
  | .file .taken => "Error: a file is in the way"
  | .file .notText => "Error: a file is not UTF-8 text"
  | .file .nameTooLong => "Error: a file name is too long"
  | .file .zeroInName => "Error: a file name holds a zero character"
  | .file .halfInText => "Error: half of a character cannot be written"
  | .defective .noSuchValue => "Error: a value does not exist"
  | .defective .oversizedCode => "Error: a character has too large a number"
  | .defective .unknownWord => "Error: a word is no truth value"
  | .defective .emptyNumber => "Error: a number has no digits"
  | .defective .notTime => "Error: a text is no time"
  | .defective .notText => "Error: a collection is no time"
  | .endlessMerge => "Error: extensions contain each other"

end Program

end ApiAtlas

/-- Runs the command line. -/
def main (args : List String) : IO UInt32 := do
  match ApiAtlas.CommandLine.parse? (args.map String.toList) with
  | none =>
    IO.eprintln "Usage: api-atlas [-v LEVEL] [-c FILE] (doc | index | search) [OPTIONS] FILES..."
    pure 2
  | some request =>
    match ← ApiAtlas.CommandLine.run request with
    | .error b =>
      IO.eprintln (ApiAtlas.Program.breakdownText b)
      pure 1
    | .ok report =>
      for m in report.messages do
        IO.eprintln (String.ofList m)
      IO.print (String.ofList report.out)
      pure (UInt32.ofNat report.code)
