import ApiAtlas.CommandLine.Arguments
import ApiAtlas.Csv
import ApiAtlas.Invocation
import ApiAtlas.Site
import ApiAtlas.Site.Landing
import ApiAtlas.Store.Load
import ApiAtlas.Text.Control

/-!
# Running a request

**Input.** A request and the files of the computer.

**Algorithm.** The access level is checked first, then the configuration is found, then the payload
files are loaded, and at last the result is written to a file, to a folder, or to the output of
the run.  What is meant for a person is printed without control sequences; tables and files hold
every character.

**Definitions.** A run ends with a `Report`: what was printed, the messages in order, and a code
that tells whether everything went well.
-/

namespace ApiAtlas

namespace CommandLine

/-- What a run printed, and how it ended. -/
structure Report where
  /-- Zero when everything went well. -/
  code : Nat
  /-- What was printed. -/
  out : Text
  /-- The messages. -/
  messages : List Text
deriving DecidableEq, Repr, Inhabited

/-- Why a run ends early. -/
inductive Stop
  /-- After a message, with a code. -/
  | exit (code : Nat)
  /-- Without a report. -/
  | breakdown (b : Breakdown)
deriving DecidableEq, Repr, Inhabited

/-- The steps of a run. -/
abbrev Action (m : Type → Type) := ExceptT Stop (StateT Report m)

section Steps

variable {m : Type → Type} [Monad m]

/-- Prints a text as it is. -/
def print (t : Text) : Action m Unit :=
  modify fun r => { r with out := r.out ++ t }

/-- Prints a text for a person and ends the line. -/
def printLine (t : Text) : Action m Unit :=
  print (t.dropControls ++ ['\n'])

/-- Gives the messages that a verbosity shows. -/
def report (verbosity : Int) (log : List Log.Message) : Action m Unit :=
  modify fun r => { r with messages := r.messages ++ Log.shown verbosity log }

/-- Ends the run with a message for a person. -/
def refuse {α : Type} (message : Text) : Action m α := do
  let said := Text.dropControls ("Error: ".toList ++ message)
  modify fun r => { r with messages := r.messages ++ [said] }
  throw (.exit 1)

/-- The result of an operation on files; an error ends the run. -/
def succeed {α : Type} (act : m (Except FileError α)) : Action m α := do
  match ← (act : StateT Report m _) with
  | .ok a => pure a
  | .error e => throw (.breakdown (.file e))

end Steps

section Phases

variable {m : Type → Type} [Monad m] [Files m]

/-- The names of all access levels. -/
def levelNames : Text :=
  Text.join ", ".toList (Access.all.map Access.label)

/-- The access level of an option. -/
def levelOf : Option Text → Action m (Option Access)
  | none => pure none
  | some t =>
    match Access.parse? t with
    | some a => pure (some a)
    | none =>
      refuse ("Invalid access level '".toList ++ t ++ "'. Must be one of: ".toList ++ levelNames)

/-- The configuration of a run: what the files say, with what the request says in its place. -/
def configure (r : Request) (title : Option Text) : Action m Config := do
  let minimum ← levelOf r.minimumAccess
  let invocation : Invocation := ⟨r.configPath, minimum, title⟩
  let found ← (Config.discover none r.configPath r.files.head? : m _)
  match found with
  | .ok c => pure (invocation.apply (c.getD {}))
  | .error (.refused e) => refuse e.message
  | .error (.broken b) => throw (.breakdown b)

/-- The store of the payload files. -/
def loadFiles (r : Request) (config : Config) : Action m Store := do
  match ← (Store.load config r.files : m _) with
  | .error b => throw (.breakdown b)
  | .ok (s, log) =>
    report r.verbosity log
    pure s

/-- The text of the landing page, when the project has one. -/
def landingText (config : Config) : Action m (Option Text) :=
  match config.projectRoot with
  | none => pure none
  | some root => do
    match ← succeed (Landing.find root) with
    | none => pure none
    | some path => some <$> succeed (Files.readText path)

/-- Writes files into a folder. -/
def writeAll (folder : Path) : List SiteFile → Action m Unit
  | [] => pure ()
  | f :: fs => do
    let target := folder ++ Path.ofText f.path
    succeed (Files.makeFolder target.parent)
    succeed (Files.writeText target f.text)
    writeAll folder fs

/-- Writes a text to a file and says so, or shows it. -/
def deliver (what : String) (output : Option Path) (t : Text) (toShow : Text → Action m Unit) :
    Action m Unit :=
  match output with
  | none => toShow t
  | some path => do
    succeed (Files.writeText path t)
    printLine (what.toList ++ " written to ".toList ++ path.toText)

/-- Writes the documentation. -/
def runDocument (r : Request) (output : Option Path) (layout : Option Layout)
    (format : Option Format) (title : Option Text) : Action m Unit := do
  let config ← configure r title
  let writer : Writer := { format := format.getD config.format, language := config.codeSyntax }
  match layout.getD config.layout, output with
  | .multiPage, none => refuse "Multi page output requires --output directory".toList
  | .multiPage, some folder =>
    let site : Site := ⟨← loadFiles r config, config, writer⟩
    let landing ← landingText config
    report r.verbosity (site.filesLog landing)
    writeAll folder (site.files landing)
    printLine ("Documentation written to ".toList ++ folder.toText)
  | .singlePage, output =>
    let site : Site := ⟨← loadFiles r config, config, writer⟩
    deliver "Documentation" output site.single printLine

/-- The search index as a table. -/
def lookupTable (site : Site) : Text :=
  Csv.table ["name".toList, "type".toList, "path".toList]
    (site.lookup.map fun e => [e.name, e.type, e.path])

/-- Writes the search index. -/
def runLookup (r : Request) (output : Option Path) : Action m Unit := do
  let config ← configure r none
  let writer : Writer := { format := .html, language := Writer.defaultLanguage }
  let site : Site := ⟨← loadFiles r config, config, writer⟩
  deliver "Index" output (lookupTable site) print

/-- The line of an entity in a list of matches. -/
def matchLine (e : Entity) : Text :=
  Text.join ['\t'] [e.title, e.kind.label, e.access.label]

/-- The kind that a word names; an empty word names none. -/
def kindOf? (word : Option Text) : Option Kind :=
  (Profile.firstGiven [word]).map Kind.parse

/-- Lists the entities that match. -/
def runSearch (r : Request) (title kind : Option Text) : Action m Unit := do
  let config ← configure r none
  let s ← loadFiles r config
  (s.search title (kindOf? kind) config.minimumAccess).forM fun e => printLine (matchLine e)

/-- Does what a request asks for. -/
def perform (r : Request) : Action m Unit :=
  match r.command with
  | .document output layout format title => runDocument r output layout format title
  | .lookup output => runLookup r output
  | .search title kind => runSearch r title kind

/-- The report of a request, or what ended it without one. -/
def run (r : Request) : m (Except Breakdown Report) := do
  let (ended, report) ← (perform r).run.run ⟨0, [], []⟩
  match ended with
  | .ok _ => pure (.ok report)
  | .error (.exit code) => pure (.ok { report with code := code })
  | .error (.breakdown b) => pure (.error b)

end Phases

end CommandLine

end ApiAtlas
