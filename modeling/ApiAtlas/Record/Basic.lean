import ApiAtlas.Payload.Checked
import ApiAtlas.Payload.Shown

/-!
# Records of the source indexer

**Input.** A value that describes one declaration: an object whose keys may be bare or qualified.

**Definitions.** A `Record` is the description of one declaration with the records nested in it.
Each field has several accepted spellings; the first one that is there counts, even when its
value is null.  Keys beyond these are ignored.  A record is refused with all its faults at once,
those of nested records included.  A record that contains itself is refused where it does.
-/

namespace ApiAtlas

/-- The fields of one record. -/
structure Record.Fields where
  /-- The kind label. -/
  kind : Text
  /-- The name of the declaration. -/
  name : Option Text
  /-- The access label. -/
  accessibility : Option Text
  /-- The documentation comment. -/
  comment : Option Text
  /-- The names of the attributes, in order and with repetitions. -/
  attributes : List Text
  /-- The declaration as the documentation gives it. -/
  docDeclaration : Option Text
  /-- The declaration as it was parsed. -/
  parsedDeclaration : Option Text
deriving DecidableEq, Repr, Inhabited

/-- A record with the records nested in it. -/
inductive Record
  | node (fields : Record.Fields) (nested : List Record)
deriving Inhabited

namespace Record

section Spellings

/-- The accepted spellings of the kind. -/
def kindKeys : List Text := ["kind".toList, "key.kind".toList]

/-- The accepted spellings of the name. -/
def nameKeys : List Text := ["name".toList, "key.name".toList]

/-- The accepted spellings of the access label. -/
def accessKeys : List Text := ["accessibility".toList, "access".toList, "key.accessibility".toList]

/-- The accepted spellings of the comment. -/
def commentKeys : List Text := ["comment".toList, "key.doc.comment".toList]

/-- The accepted spellings of the attributes. -/
def attributeKeys : List Text := ["attributes".toList, "key.attributes".toList]

/-- The accepted spellings of the documented declaration. -/
def docDeclarationKeys : List Text := ["doc_declaration".toList, "key.doc.declaration".toList]

/-- The accepted spellings of the parsed declaration. -/
def parsedDeclarationKeys : List Text :=
  ["parsed_declaration".toList, "key.parsed_declaration".toList]

/-- The accepted spellings of the nested records. -/
def nestedKeys : List Text := ["substructure".toList, "nested".toList, "key.substructure".toList]

end Spellings

section Fields

/-- The fields of the record. -/
def fields : Record → Fields
  | node f _ => f

/-- The records nested in the record. -/
def nested : Record → List Record
  | node _ ns => ns

/-- A value that has to be a text, or the bytes of one. -/
def checkText : Value → Checked Text
  | .str t => .ok t
  | .bytes b => (Encoding.text? b).elim (.refuse .brokenText) .ok
  | _ => .refuse .notText

/-- A value that has to be a text or null. -/
def checkOptionalText : Value → Checked (Option Text)
  | .null => .ok none
  | v => (checkText v).map some

/-- The kind label, which every record needs. -/
def checkKind (es : Entries) : Checked Text :=
  match es.first? kindKeys with
  | none => .faulty [⟨["kind".toList], .missing⟩]
  | some (key, v) => (checkText v).under key

/-- A text that a record may leave out. -/
def checkOptional (es : Entries) (keys : List Text) : Checked (Option Text) :=
  match es.first? keys with
  | none => .ok none
  | some (key, v) => (checkOptionalText v).under key

/-- What stands before the name of an attribute in its qualified form. -/
def attributeQualifier : Text :=
  "source.decl.attribute.".toList

/-- What an entry of the attributes says: the entry itself, or what its object holds.  Null says
nothing. -/
def attributeValue? (entry : Value) : Option Value :=
  let raw : Option Value :=
    match entry.content with
    | .object es =>
      match Entries.get? es "key.attribute".toList with
      | some v => if v.isGiven then some v else Entries.get? es "name".toList
      | none => Entries.get? es "name".toList
    | _ => some entry
  raw.filter fun v =>
    match v with
    | .null => false
    | _ => true

/-- The name of an attribute, without its qualifier. -/
def attributeName (v : Value) : Text :=
  Text.cut attributeQualifier v.shown

/-- The names of the attributes; a single entry may stand without a list around it.  Every value
that says something has to be one that can be shown. -/
def attributeNames (v : Value) : Checked (List Text) :=
  let entries : List Value :=
    match v.content with
    | .null => []
    | .list items => items
    | _ => [v]
  let said := entries.filterMap attributeValue?
  if said.all (Value.isShowable []) then .ok (said.map attributeName) else .refuse .refused

/-- The names of the attributes of a record. -/
def checkAttributes (es : Entries) : Checked (List Text) :=
  match es.first? attributeKeys with
  | none => .ok []
  | some (key, v) => (attributeNames v).under key

/-- All fields of a record but the nested records. -/
def checkFields (es : Entries) : Checked Fields :=
  Fields.mk <$> checkKind es <*> checkOptional es nameKeys <*> checkOptional es accessKeys <*>
    checkOptional es commentKeys <*> checkAttributes es <*> checkOptional es docDeclarationKeys <*>
    checkOptional es parsedDeclarationKeys

end Fields

section Reading

/-- The result under the first of several keys that is there; the others are not asked for. -/
def pick (keys : List Text) (results : List (Value × (Unit → Checked (List Record)))) :
    Checked (List Record) :=
  match keys with
  | [] => .ok []
  | key :: keys =>
    match results.find? fun (k, _) => k.sameKey (.str key) with
    | some (_, result) => (result ()).under key
    | none => pick keys results

mutual

/-- The record that a value describes; `opened` holds the marks of the records around it. -/
def checkIn (opened : List (Nat × Nat)) : Value → Checked Record
  | .object es => Record.node <$> checkFields es <*> pick nestedKeys (checkEntries opened es)
  | .shared mark v =>
    if opened.contains mark then .refuse .endless else checkIn (mark :: opened) v
  | _ => .refuse .notObject

/-- Every entry of an object, to be read as if it held nested records. -/
def checkEntries (opened : List (Nat × Nat)) :
    List (Value × Value) → List (Value × (Unit → Checked (List Record)))
  | [] => []
  | (k, v) :: es => (k, fun _ => checkNested opened v) :: checkEntries opened es

/-- A list or a set of records, or null for none. -/
def checkNested (opened : List (Nat × Nat)) : Value → Checked (List Record)
  | .null => .ok []
  | .list items | .set items => checkAll opened 0 items
  | .shared _ v => checkNested opened v
  | _ => .refuse .notList

/-- Records at consecutive positions. -/
def checkAll (opened : List (Nat × Nat)) (position : Nat) : List Value → Checked (List Record)
  | [] => .ok []
  | v :: vs =>
    List.cons <$> (checkIn opened v).under (Text.ofNat position) <*>
      checkAll opened (position + 1) vs

end

/-- The record that a value describes. -/
def check (v : Value) : Checked Record :=
  checkIn [] v

end Reading

end Record

end ApiAtlas
