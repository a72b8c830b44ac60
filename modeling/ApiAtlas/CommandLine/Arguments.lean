import ApiAtlas.Output
import ApiAtlas.Path
import ApiAtlas.Text.Integer

/-!
# Reading the command line

**Input.** The words of a command line.

**Algorithm.** An option takes a value, which follows its name after an equals sign, directly after
a one-letter name, or as the next word, whatever that word is.  The word `--` ends the options.
Options before the command concern the whole run, and options after it may stand anywhere between
the files.  Of an option that is given twice the last value counts.

**Definitions.** `CommandLine.parse?` yields what is asked for, or nothing when the words do not
make sense.
-/

namespace ApiAtlas

namespace CommandLine

/-- An option by its long name and the letter that stands for it. -/
structure OptionName where
  /-- The long name. -/
  long : Text
  /-- The one-letter name. -/
  letter : Option Char
deriving DecidableEq, Repr, Inhabited

/-- The options that were found, first given first, and the other words. -/
structure Scanned where
  /-- The options with their values. -/
  values : List (Text × Text)
  /-- The words that belong to no option. -/
  operands : List Text
deriving DecidableEq, Repr, Inhabited

section Scanning

/-- The option that a word names, and the value within the word. -/
def optionOf? (known : List OptionName) (word : Text) : Option (OptionName × Option Text) :=
  let name := word.takeWhile (· != '=')
  let value := (word.dropWhile (· != '=')).tail?
  match known.find? fun o => '-' :: '-' :: o.long == name with
  | some o => some (o, value)
  | none =>
    match word with
    | '-' :: '-' :: _ => none
    | '-' :: c :: rest =>
      (known.find? fun o => o.letter == some c).map fun o =>
        (o, if rest.isEmpty then none else some rest)
    | _ => none

/-- Separates options from other words.  Unless `mixed`, the first other word ends the options. -/
def scan (known : List OptionName) (mixed : Bool) : List Text → Option Scanned
  | [] => some ⟨[], []⟩
  | word :: rest =>
    let isOption := word.head? == some '-' && word.length != 1
    if word = "--".toList then some ⟨[], rest⟩
    else if isOption then
      match optionOf? known word, rest with
      | none, _ => none
      | some (o, some v), rest => (scan known mixed rest).map fun s => keep o v s
      | some (_, none), [] => none
      | some (o, none), v :: rest => (scan known mixed rest).map fun s => keep o v s
    else if mixed then
      (scan known mixed rest).map fun s => { s with operands := word :: s.operands }
    else some ⟨[], word :: rest⟩
where
  /-- One more option in front. -/
  keep (o : OptionName) (v : Text) (s : Scanned) : Scanned :=
    { s with values := (o.long, v) :: s.values }

/-- The last value of an option. -/
def Scanned.last? (s : Scanned) (name : String) : Option Text :=
  (s.values.reverse.find? fun v => v.1 == name.toList).map Prod.snd

end Scanning

section Values

/-- The greatest verbosity. -/
def maxVerbosity : Int :=
  3

/-- A verbosity. -/
def verbosity? (t : Text) : Option Int :=
  t.integer?.filter fun n => 0 ≤ n && n ≤ maxVerbosity

/-- The value of an option, when it is not given or makes sense. -/
def optional? {α : Type} (read? : Text → Option α) : Option Text → Option (Option α)
  | none => some none
  | some t => (read? t).map some

end Values

/-- What a run does. -/
inductive Command
  /-- Writes the documentation. -/
  | document (output : Option Path) (layout : Option Layout) (format : Option Format)
    (title : Option Text)
  /-- Writes the search index. -/
  | lookup (output : Option Path)
  /-- Lists the entities that match. -/
  | search (title kind : Option Text)
deriving DecidableEq, Repr, Inhabited

/-- What a command line asks for. -/
structure Request where
  /-- How much is reported. -/
  verbosity : Int
  /-- The selected configuration file. -/
  configPath : Option Path
  /-- The access level as it was given. -/
  minimumAccess : Option Text
  /-- The payload files; there is at least one. -/
  files : List Path
  /-- What to do with them. -/
  command : Command
deriving DecidableEq, Repr, Inhabited

section Commands

/-- The options of the whole run. -/
def runOptions : List OptionName :=
  [⟨"verbose".toList, some 'v'⟩, ⟨"config".toList, some 'c'⟩]

/-- The option for the access level. -/
def accessOption : OptionName :=
  ⟨"min-access".toList, none⟩

/-- The option for the output. -/
def outputOption : OptionName :=
  ⟨"output".toList, some 'o'⟩

/-- A command and its options by name. -/
def optionsOf? (name : Text) : Option (List OptionName) :=
  [("doc".toList,
      [outputOption, ⟨"layout".toList, some 'l'⟩, ⟨"format".toList, some 'f'⟩, accessOption,
        ⟨"title".toList, none⟩]),
    ("index".toList, [outputOption, accessOption]),
    ("search".toList,
      [⟨"title".toList, some 't'⟩, ⟨"kind".toList, some 'k'⟩, accessOption])].lookup name

/-- The command of a name with the values of its options. -/
def command? (name : Text) (s : Scanned) : Option Command :=
  let output := (s.last? "output").map Path.ofText
  if name = "doc".toList then do
    let layout ← optional? Layout.ofName? (s.last? "layout")
    let format ← optional? Format.ofName? (s.last? "format")
    some (.document output layout format (s.last? "title"))
  else if name = "index".toList then some (.lookup output)
  else some (.search (s.last? "title") (s.last? "kind"))

/-- What a command line asks for; nothing when it makes no sense. -/
def parse? (words : List Text) : Option Request := do
  let run ← scan runOptions false words
  let verbosity ← optional? verbosity? (run.last? "verbose")
  match run.operands with
  | [] => none
  | name :: words =>
    let known ← optionsOf? name
    let s ← scan known true words
    let command ← command? name s
    if s.operands.isEmpty then none
    else
      some
        { verbosity := verbosity.getD 0
          configPath := (run.last? "config").map Path.ofText
          minimumAccess := s.last? "min-access"
          files := s.operands.map Path.ofText
          command := command }

end Commands

end CommandLine

end ApiAtlas
