import ApiAtlas.Access
import ApiAtlas.Merge.External
import ApiAtlas.Output
import ApiAtlas.Path
import ApiAtlas.Record.Basic
import ApiAtlas.Text.Integer

/-!
# Configuration

**Input.** The entries of a configuration object.

**Definitions.** A `Config` holds the identity of the project, the least access level that is
documented, the choices of merging and the shape of the output.  Everything may be left out.
`check` reads the entries and reports all faults, in the order of the fields.
-/

namespace ApiAtlas

/-- The configuration of a run. -/
structure Config where
  /-- The title of the project. -/
  projectTitle : Option Text := none
  /-- The root folder of the project. -/
  projectRoot : Option Path := none
  /-- The least access level that is documented. -/
  minimumAccess : Access := .internal
  /-- The choices of merging. -/
  merge : Merge.Options := ⟨true, true⟩
  /-- The layout of the pages. -/
  layout : Layout := .singlePage
  /-- The format of the pages. -/
  format : Format := .markdown
  /-- The language name of declarations in code blocks. -/
  codeSyntax : Text := "swift".toList
deriving DecidableEq, Inhabited

namespace Config

section Defs

/-- The title to show: the given one, else the name of the root folder, else a general word. -/
def title (c : Config) : Text :=
  let rootName := c.projectRoot.bind fun r => some r.name
  (Profile.firstGiven [c.projectTitle, rootName]).getD "Documentation".toList

/-- A field, with the value that holds when it is left out. -/
def field {α : Type} (es : Entries) (name : String) (dflt : α) (check : Value → Checked α) :
    Checked α :=
  match es.get? name.toList with
  | none => .ok dflt
  | some v => (check v.content).under name.toList

/-- A title; one of blanks only counts as none. -/
def checkTitle : Value → Checked (Option Text)
  | .str t => .ok (if t.all Text.isBlank then none else some t)
  | v => Record.checkOptionalText v

/-- A folder, or null for none. -/
def checkRoot : Value → Checked (Option Path)
  | .null => .ok none
  | .str t => .ok (some (Path.ofText t))
  | _ => .refuse .notPath

/-- Whether an integer fits into 64 bits. -/
def fitsWord (n : Int) : Bool :=
  -(Nat.pow 2 63 : Int) ≤ n && n < Nat.pow 2 63

/-- The access level of a rank, which has to fit into 64 bits. -/
def checkRank (n : Int) : Checked Access :=
  if fitsWord n then
    (Access.all.find? fun a => (a.rank : Int) == n).elim (.refuse .notChoice) .ok
  else .refuse .oversized

/-- An access level by its label, or by its rank: a number, a truth value or digits in bytes. -/
def checkLevel : Value → Checked Access
  | .str t => (Access.parse? t).elim (.refuse .refused) .ok
  | .double x => ((x.toInt?).filter fitsWord).elim (.refuse .notChoice) checkRank
  | .bytes b => ((Encoding.text? b).bind Text.integer?).elim (.refuse .notChoice) checkRank
  | v => v.asInt?.elim (.refuse .notChoice) checkRank

/-- The words for truth values. -/
def boolWord? (t : Text) : Option Bool :=
  let t := t.map Char.toLower
  if ["1".toList, "on".toList, "t".toList, "true".toList, "y".toList, "yes".toList].contains t then
    some true
  else if ["0".toList, "off".toList, "f".toList, "false".toList, "n".toList,
      "no".toList].contains t then
    some false
  else none

/-- A truth value as a number, which has to fit into 64 bits. -/
def checkBit (n : Int) : Checked Bool :=
  if !fitsWord n then .refuse .notBool
  else if n = 0 then .ok false
  else if n = 1 then .ok true
  else .refuse .unreadableBool

/-- What a word names, given as a text or as the bytes of one. -/
def checkWord {α : Type} (ofWord? : Text → Option α) (cause : Cause) (t : Text) : Checked α :=
  if t.any Text.isHalf then .refuse .brokenText else (ofWord? t).elim (.refuse cause) .ok

/-- A truth value, a word for one, or a number that equals one. -/
def checkBool : Value → Checked Bool
  | .bool b => .ok b
  | .int n => checkBit n
  | .double x =>
    (x.toInt?.filter fun n => n.natAbs < Nat.pow 2 63).elim (.refuse .notBool) checkBit
  | .str t => checkWord boolWord? .unreadableBool t
  | .bytes b => (Encoding.text? b).elim (.refuse .unreadableBool) (checkWord boolWord? .unreadableBool)
  | _ => .refuse .notBool

/-- One of a number of named choices. -/
def checkChoice {α : Type} (ofName? : Text → Option α) : Value → Checked α
  | .str t => checkWord ofName? .notChoice t
  | .bytes b => (Encoding.text? b).elim (.refuse .notChoice) (checkWord ofName? .notChoice)
  | _ => .refuse .notChoice

/-- The choices of merging. -/
def checkMerge : Value → Checked Merge.Options
  | .object es =>
    Merge.Options.mk <$> field es "reverse_external_order" true checkBool <*>
      field es "duplicate_internal_matches" true checkBool
  | _ => .refuse .notObject

/-- The shape of the output. -/
structure Shape where
  /-- The layout of the pages. -/
  layout : Layout
  /-- The format of the pages. -/
  format : Format
  /-- The language name of declarations in code blocks. -/
  codeSyntax : Text

/-- The shape of the output. -/
def checkShape : Value → Checked Shape
  | .object es =>
    Shape.mk <$> field es "layout" .singlePage (checkChoice Layout.ofName?) <*>
      field es "format" .markdown (checkChoice Format.ofName?) <*>
      field es "code_syntax" "swift".toList Record.checkText
  | _ => .refuse .notObject

/-- The configuration that the entries of an object describe. -/
def check (es : Entries) : Checked Config :=
  (fun title root level merge (shape : Shape) =>
      { projectTitle := title
        projectRoot := root
        minimumAccess := level
        merge := merge
        layout := shape.layout
        format := shape.format
        codeSyntax := shape.codeSyntax }) <$>
    field es "project_title" none checkTitle <*> field es "project_root" none checkRoot <*>
    field es "minimum_access" .internal checkLevel <*>
    field es "merge" ⟨true, true⟩ checkMerge <*>
    field es "output" ⟨.singlePage, .markdown, "swift".toList⟩ checkShape

end Defs

end Config

end ApiAtlas
