import ApiAtlas.Payload.Calendar
import ApiAtlas.Payload.Double
import ApiAtlas.Payload.Encoding

/-!
# Payload values

**Input.** A decoded payload: the values that a JSON or YAML document can hold.

**Definitions.** A `Value` is a scalar or a collection.  The keys of an object are values too, kept
in the order of their first occurrence; a later entry with an equal key replaces the value and
keeps the place.  Numbers and truth values are equal keys when they are equal numbers, and moments
when they are the same instant.  A collection that contains itself holds copies of itself, one in
another, and all of them carry the same mark.
-/

namespace ApiAtlas

/-- A value of a payload. -/
inductive Value
  | null
  | bool (b : Bool)
  | int (n : Int)
  | double (x : Double)
  | str (t : Text)
  | bytes (b : Bytes)
  | day (d : Day)
  | moment (m : Moment)
  | list (items : List Value)
  | pair (first second : Value)
  | set (items : List Value)
  | object (entries : List (Value × Value))
  /-- A copy of a collection that contains itself. -/
  | shared (mark : Nat × Nat) (content : Value)
deriving Inhabited

/-- The entries of an object in order. -/
abbrev Entries := List (Value × Value)

namespace Value

section Defs

/-- The value itself, whether it is a copy or not. -/
def content : Value → Value
  | shared _ v => v.content
  | v => v

/-- The integer that a scalar equals, for truth values and integers. -/
def asInt? : Value → Option Int
  | bool b => some (if b then 1 else 0)
  | int n => some n
  | _ => none

/-- Whether two scalars are equal as keys of an object. -/
def sameKey (a b : Value) : Bool :=
  match a, b with
  | null, null => true
  | str s, str t => s == t
  | bytes s, bytes t => s == t
  | day d, day e => d == e
  | moment m, moment n => m.sameInstant n
  | double x, double y => x.equals y || (x.isNaN && y.isNaN)
  | double x, v => v.asInt?.elim false x.equalsInt
  | v, double x => v.asInt?.elim false x.equalsInt
  | v, w =>
    match v.asInt?, w.asInt? with
    | some m, some n => m == n
    | _, _ => false

/-- Whether a value can be the key of an object. -/
def isScalar : Value → Bool
  | list _ | pair .. | set _ | object _ | shared .. => false
  | _ => true

/-- Whether a value counts as given: not null, not false, not zero and not empty. -/
def isGiven : Value → Bool
  | null => false
  | bool b => b
  | int n => n != 0
  | double x => !x.isZero
  | str t => !t.isEmpty
  | bytes b => !b.isEmpty
  | day _ | moment _ | pair .. => true
  | list items | set items => !items.isEmpty
  | object entries => !entries.isEmpty
  | shared _ v => v.isGiven

end Defs

end Value

namespace Entries

section Defs

/-- The entries with one more: an equal key keeps its place and takes the new value. -/
def put (k v : Value) : Entries → Entries
  | [] => [(k, v)]
  | (l, w) :: es => if k.sameKey l then (l, v) :: es else (l, w) :: put k v es

/-- The entries of a list in which later values replace earlier ones. -/
def ofList (es : List (Value × Value)) : Entries :=
  es.foldl (fun acc (k, v) => put k v acc) []

/-- The value under a text key. -/
def get? (es : Entries) (name : Text) : Option Value :=
  (es.find? fun (k, _) => k.sameKey (.str name)).map (·.2)

/-- The value under the first of several keys that is there, with the key. -/
def first? (es : Entries) : List Text → Option (Text × Value)
  | [] => none
  | name :: names =>
    match es.get? name with
    | some v => some (name, v)
    | none => first? es names

end Defs

end Entries

end ApiAtlas
