import ApiAtlas.Text.Blank
import ApiAtlas.Text.Case

/-!
# Kinds of entities

**Input.** The kind label of a record, bare or qualified.

**Definitions.** Seven declaration kinds form a closed set; every other label is kept as it reads.
`Kind.parse` sends a label to its kind, `Kind.label` shows a kind, and `Kind.lookupType` is the
word that the lookup index uses for it.
-/

namespace ApiAtlas

/-- The kinds of declarations that have pages of their own. -/
inductive DeclKind
  | classType
  | structType
  | enumType
  | protocolType
  | extensionOf
  | globalFunction
  | typeAlias
deriving DecidableEq, Repr, Inhabited

/-- The kind of an entity: one of the closed set, or a label outside it such as a method or a
property. -/
inductive Kind
  | decl (k : DeclKind)
  | other (label : Text)
deriving DecidableEq, Repr, Inhabited

namespace DeclKind

/-- All kinds in the order of the top-level index. -/
def all : List DeclKind :=
  [classType, structType, enumType, protocolType, extensionOf, globalFunction, typeAlias]

/-- The label of a kind. -/
def label : DeclKind → Text
  | classType => "class".toList
  | structType => "struct".toList
  | enumType => "enum".toList
  | protocolType => "protocol".toList
  | extensionOf => "extension".toList
  | globalFunction => "global func".toList
  | typeAlias => "typealias".toList

/-- The word for a kind in the lookup index. -/
def lookupType : DeclKind → Text
  | classType => "Class".toList
  | structType => "Struct".toList
  | enumType => "Enum".toList
  | protocolType => "Protocol".toList
  | extensionOf => "Extension".toList
  | globalFunction => "Function".toList
  | typeAlias => "Type".toList

/-- Whether extensions can be folded into entities of the kind. -/
def extendable : DeclKind → Bool
  | classType | structType | enumType | protocolType => true
  | extensionOf | globalFunction | typeAlias => false

@[simp] theorem mem_all (k : DeclKind) : k ∈ all := by
  cases k <;> decide

end DeclKind

namespace Kind

section Defs

/-- What stands before the name in a qualified label. -/
def qualifier : Text :=
  "source.lang.swift.decl.".toList

/-- The kind of the records that only group the elements of an enumeration. -/
def enumCase : Kind :=
  .other "enum case".toList

/-- The kind of extensions. -/
def extensionOf : Kind :=
  .decl .extensionOf

/-- Accepted spellings, in lower case and without the qualifier. -/
def spellings : List (Text × Kind) :=
  [("class".toList, .decl .classType),
   ("struct".toList, .decl .structType),
   ("enum".toList, .decl .enumType),
   ("protocol".toList, .decl .protocolType),
   ("extension".toList, .decl .extensionOf),
   ("extension.class".toList, .decl .extensionOf),
   ("extension.struct".toList, .decl .extensionOf),
   ("extension.enum".toList, .decl .extensionOf),
   ("extension.protocol".toList, .decl .extensionOf),
   ("global func".toList, .decl .globalFunction),
   ("globalfunction".toList, .decl .globalFunction),
   ("globalfunc".toList, .decl .globalFunction),
   ("function.free".toList, .decl .globalFunction),
   ("typealias".toList, .decl .typeAlias),
   ("type alias".toList, .decl .typeAlias),
   ("enumcase".toList, enumCase),
   ("enum case".toList, enumCase),
   ("enumelement".toList, .other "enum element".toList),
   ("var.instance".toList, .other "instance var".toList),
   ("var.static".toList, .other "static var".toList),
   ("var.class".toList, .other "class var".toList),
   ("var.global".toList, .other "global var".toList),
   ("var.local".toList, .other "local var".toList),
   ("function.method.instance".toList, .other "instance method".toList),
   ("function.method.static".toList, .other "static method".toList),
   ("function.method.class".toList, .other "class method".toList),
   ("function.constructor".toList, .other "initializer".toList),
   ("function.destructor".toList, .other "deinitializer".toList),
   ("function.subscript".toList, .other "subscript".toList),
   ("function.operator".toList, .other "operator".toList),
   ("associatedtype".toList, .other "associated type".toList)]

/-- The kind that a label names.  A label outside the list of spellings is kept: a bare one as it
is written, a qualified one in lower case with spaces for its dots. -/
def parse (label : Text) : Kind :=
  let bare := label.strip
  match Text.cut? qualifier bare.lower with
  | some name => (spellings.lookup name).getD (.other (Text.replaceChar '.' [' '] name))
  | none => (spellings.lookup bare.lower).getD (.other bare)

/-- The label that shows a kind. -/
def label : Kind → Text
  | decl k => k.label
  | other l => l

/-- The word for a kind in the lookup index. -/
def lookupType : Kind → Text
  | decl k => k.lookupType
  | other l => l.title

/-- Whether extensions can be folded into entities of the kind. -/
def extendable : Kind → Bool
  | decl k => k.extendable
  | other _ => false

/-- Whether the kind belongs to the closed set. -/
def isDecl : Kind → Bool
  | decl _ => true
  | other _ => false

end Defs

section Laws

theorem isDecl_of_extendable {k : Kind} (h : k.extendable = true) : k.isDecl = true := by
  cases k with
  | decl k => rfl
  | other l => simp [extendable] at h

end Laws

end Kind

end ApiAtlas
