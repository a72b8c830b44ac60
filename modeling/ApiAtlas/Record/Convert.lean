import ApiAtlas.Entity
import ApiAtlas.Log
import ApiAtlas.Path
import ApiAtlas.Record.Source

/-!
# Entities from records

**Input.** The records of a file, and the title of the entity around them.

**Algorithm.** Records that only group the elements of an enumeration are replaced by what is
nested in them.  A record without a name or without a readable access label is left out with all
that is nested in it.  Every other record becomes an entity; a declaration of the closed set is
titled with the title around it.

**Results.** The conversion of a list goes record by record (`convertAll_cons`), and so part by
part (`convertAll_append`).
-/

namespace ApiAtlas

namespace Record

section Defs

/-- The name and the access level of a record that becomes an entity. -/
def identity? (f : Fields) : Option (Text × Access) :=
  match f.name, f.accessibility.bind Access.parse? with
  | some (c :: name), some access => some (c :: name, access)
  | _, _ => none

/-- The title of an entity: its name, after the title around it for declarations of the closed
set. -/
def titleIn (parent : Text) (kind : Kind) (name : Text) : Text :=
  if kind.isDecl && !parent.isEmpty then parent ++ '.' :: name else name

/-- What the entity of a record says of itself. -/
def profileIn (sourceFile parent : Text) (f : Fields) (name : Text) (access : Access) : Profile :=
  let kind := Kind.parse f.kind
  { title := titleIn parent kind name
    access := access
    comment := f.comment
    sourceFile := sourceFile
    kind := kind
    attributes := .ofList f.attributes
    docDeclaration := f.docDeclaration
    parsedDeclaration := f.parsedDeclaration
    synthetic := false }

mutual

/-- The entities that a record becomes. -/
def convert (sourceFile parent : Text) : Record → List Entity
  | node f ns =>
    if Kind.parse f.kind = Kind.enumCase then convertAll sourceFile parent ns
    else
      match identity? f with
      | none => []
      | some (name, access) =>
        let p := profileIn sourceFile parent f name access
        [.node p (convertAll sourceFile p.title ns) []]

/-- The entities that records become, in order. -/
def convertAll (sourceFile parent : Text) : List Record → List Entity
  | [] => []
  | r :: rs => convert sourceFile parent r ++ convertAll sourceFile parent rs

end

mutual

/-- The kind labels of the records that are left out, in order. -/
def skipped : Record → List Text
  | node f ns =>
    if Kind.parse f.kind = Kind.enumCase then skippedAll ns
    else if (identity? f).isNone then [f.kind]
    else skippedAll ns

/-- The kind labels of the records of a list that are left out, in order. -/
def skippedAll : List Record → List Text
  | [] => []
  | r :: rs => skipped r ++ skippedAll rs

end

/-- The report of a record that is left out. -/
def skipMessage (sourceFile kind : Text) : Log.Message :=
  ⟨.checks, "Skipping '".toList ++ kind ++ "' record in ".toList ++ sourceFile ++
    ": missing name or access level".toList⟩

end Defs

section Laws

@[simp] theorem convertAll_nil (sourceFile parent : Text) :
    convertAll sourceFile parent [] = [] := by
  rw [convertAll]

@[simp] theorem convertAll_cons (sourceFile parent : Text) (r : Record) (rs : List Record) :
    convertAll sourceFile parent (r :: rs) =
      convert sourceFile parent r ++ convertAll sourceFile parent rs := by
  rw [convertAll]

theorem convertAll_append (sourceFile parent : Text) (rs ss : List Record) :
    convertAll sourceFile parent (rs ++ ss) =
      convertAll sourceFile parent rs ++ convertAll sourceFile parent ss := by
  induction rs with
  | nil => simp
  | cons r rs ih => simp [ih]

end Laws

end Record

namespace Source

section Defs

/-- The path of the file as entities show it. -/
def shownPath (root : Option Path) (s : Source) : Text :=
  Path.relativeSource root s.path

/-- The top-level entities of a file. -/
def entities (root : Option Path) (s : Source) : List Entity :=
  Record.convertAll (s.shownPath root) [] s.records

/-- The top-level entities of files, in order. -/
def entitiesOf (root : Option Path) (sources : List Source) : List Entity :=
  sources.flatMap (entities root)

/-- The report of the records that are left out. -/
def skipLog (root : Option Path) (sources : List Source) : List Log.Message :=
  sources.flatMap fun s => (Record.skippedAll s.records).map (Record.skipMessage (s.shownPath root))

end Defs

end Source

end ApiAtlas
