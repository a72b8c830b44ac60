import ApiAtlas.Payload.Base64
import ApiAtlas.Payload.Yaml.Node
import ApiAtlas.Payload.Yaml.Number
import ApiAtlas.Payload.Yaml.Time

/-!
# Types of YAML nodes

**Input.** A node with its tag.

**Definitions.** A tag names the type of a node.  Without one, a plain text is a truth value, a
number, a time or null when it is written like one, a line break at its end aside; any other text
is itself, a sequence is a list and a mapping is an object.  `scalarValue` makes the value of a
text of a type.
-/

namespace ApiAtlas

namespace Yaml

open Payload (Failure)

/-- The types of nodes. -/
inductive NodeType
  | null
  | bool
  | int
  | float
  | binary
  | timestamp
  | str
  | seq
  | omap
  | pairs
  | set
  | map
  /-- The key that brings in the entries of other mappings. -/
  | merge
  /-- The key of the value that a mapping has as a text. -/
  | default
  | unknown
deriving DecidableEq, Repr

section Words

/-- The truth value that a word names, in lower case. -/
def boolOf? (t : Text) : Option Bool :=
  if ["yes".toList, "true".toList, "on".toList].contains t then some true
  else if ["no".toList, "false".toList, "off".toList].contains t then some false
  else none

/-- Whether a word is written in lower case, in capitals, or with one capital in front. -/
def isEvenlyCased (t : Text) : Bool :=
  let lower := t.map Char.toLower
  t == lower || t == t.map Char.toUpper ||
    t == (match lower with
      | [] => []
      | c :: r => c.toUpper :: r)

/-- A text without a line break at its end, unless it is nothing else. -/
def chomp (t : Text) : Text :=
  if t.endsWith '\n' && t.length != 1 then t.dropLast else t

end Words

section Types

/-- The type of a plain text. -/
def typeOfText (t : Text) : NodeType :=
  let u := chomp t
  if isEvenlyCased u && (boolOf? (u.map Char.toLower)).isSome then .bool
  else if isFloat u then .float
  else if isInt u then .int
  else if u == ['<', '<'] then .merge
  else if u == [] || u == ['~'] || (isEvenlyCased u && u.map Char.toLower == "null".toList) then
    .null
  else if isTimestamp u then .timestamp
  else if u == ['='] then .default
  else if u == ['!'] || u == ['&'] || u == ['*'] then .unknown
  else .str

/-- The names of types in tags. -/
def typeNames : List (Text × NodeType) :=
  [("null".toList, .null), ("bool".toList, .bool), ("int".toList, .int), ("float".toList, .float),
    ("binary".toList, .binary), ("timestamp".toList, .timestamp), ("str".toList, .str),
    ("seq".toList, .seq), ("omap".toList, .omap), ("pairs".toList, .pairs), ("set".toList, .set),
    ("map".toList, .map), ("merge".toList, .merge), ("value".toList, .default)]

/-- The type that a full tag names. -/
def typeOfTag (tag : Text) : NodeType :=
  ((Text.cut? "tag:yaml.org,2002:".toList tag).bind fun n => typeNames.lookup n).getD .unknown

/-- The type of a node with a tag, when `usual` is the type of such nodes without one. -/
def typeWith (usual : NodeType) : Tag → NodeType
  | .given t => typeOfTag t
  | _ => usual

/-- The type of a node. -/
def typeOf : Node → NodeType
  | .scalar .plain t => typeOfText t
  | .scalar tag _ => typeWith .str tag
  | .sequence _ tag _ => typeWith .seq tag
  | .mapping _ tag _ => typeWith .map tag
  | .again _ n => typeOf n
  | .back _ => .unknown

end Types

section Scalars

/-- The text of a node: its own, or that of the default key of a mapping. -/
def textOf : Node → Except Failure Text
  | .scalar _ t => .ok t
  | .mapping _ _ es => defaultText es
  | .again _ n => textOf n
  | _ => .error .unreadable
where
  /-- The text of the first default key. -/
  defaultText : List (Node × Node) → Except Failure Text
    | [] => .error .unreadable
    | (k, v) :: es => if typeOf k == .default then textOf v else defaultText es

/-- The value of a text of a type. -/
def scalarValue (type : NodeType) (t : Text) : Except Failure Value :=
  let made (v : Except Defect Value) : Except Failure Value := v.mapError .defective
  match type with
  | .null => .ok .null
  | .str => .ok (.str t)
  | .bool => made ((boolOf? (t.map Char.toLower)).elim (.error .unknownWord) (.ok ∘ .bool))
  | .int => made ((intOf t).map .int)
  | .float => made ((floatOf t).map .double)
  | .timestamp => made (timeOf (chomp t))
  | .binary =>
    if t.all fun c => c.toNat < 0x80 then
      Payload.orUnreadable ((Base64.decode? t).map .bytes)
    else .error .unreadable
  | _ => .error .unreadable

end Scalars

end Yaml

end ApiAtlas
