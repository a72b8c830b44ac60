import ApiAtlas.Payload.Failure
import ApiAtlas.Payload.Value
import ApiAtlas.Text.Printable

/-!
# Values as text

**Input.** Any payload value.

**Definitions.** `Value.shown` is the text of a value where a name is expected: a text is itself,
and every other value reads as it would be written inside a collection (`Value.written`): truth
values with a capital, texts in quotes with their unprintable characters escaped.  A collection
inside itself is shown by dots.  Integers with too many digits cannot be shown (`isShowable`).
-/

namespace ApiAtlas

namespace Quoted

section Defs

/-- A number in hexadecimal digits, filled up with zeros to a width. -/
def hex (width n : Nat) : Text :=
  let t := Nat.toDigits 16 n
  List.replicate (width - t.length) '0' ++ t

/-- The quote to write around a text: a single one, unless only single ones occur in the text. -/
def quoteFor (t : Text) : Char :=
  if t.contains '\'' && !t.contains '"' then '"' else '\''

/-- A code point as an escape of the least width. -/
def escapeCode (n : Nat) : Text :=
  if n < 0x100 then "\\x".toList ++ hex 2 n
  else if n < 0x10000 then "\\u".toList ++ hex 4 n
  else "\\U".toList ++ hex 8 n

/-- A character inside quotes. -/
def escape (isPlain : Char → Bool) (quote c : Char) : Text :=
  if c == quote || c == '\\' then ['\\', c]
  else if c == '\n' then ['\\', 'n']
  else if c == '\r' then ['\\', 'r']
  else if c == '\t' then ['\\', 't']
  else if isPlain c then [c]
  else escapeCode (Text.codePoint c)

/-- A text in quotes, in which only characters of a class stand as they are. -/
def writeWith (isPlain : Char → Bool) (t : Text) : Text :=
  let quote := quoteFor t
  quote :: t.flatMap (escape isPlain quote) ++ [quote]

/-- A text in quotes. -/
def write (t : Text) : Text :=
  writeWith Text.isPrintable t

/-- Bytes in quotes: printable ones of the basic set stand for themselves. -/
def writeBytes (b : Bytes) : Text :=
  'b' :: writeWith (fun c => 0x20 ≤ c.toNat && c.toNat < 0x7F) (b.map fun x => Char.ofNat x.toNat)

end Defs

end Quoted

namespace Day

/-- The day as it is written inside a collection. -/
def written (d : Day) : Text :=
  "datetime.date(".toList ++
    Text.join ", ".toList ([d.year, d.month, d.day].map Text.ofNat) ++ [')']

end Day

namespace Moment

/-- The distance from universal time as it is written inside a collection. -/
def zoneWritten (o : Int) : Text :=
  if o = 0 then "datetime.timezone.utc".toList
  else
    let seconds := o * 60
    let days := Int.fdiv seconds 86400
    let rest := Int.fmod seconds 86400
    "datetime.timezone(datetime.timedelta(".toList ++
      Text.join ", ".toList
        ((if days = 0 then [] else ["days=".toList ++ Text.ofInt days]) ++
          (if rest = 0 then [] else ["seconds=".toList ++ Text.ofInt rest])) ++ "))".toList

/-- The moment as it is written inside a collection. -/
def written (m : Moment) : Text :=
  let late :=
    if m.micro != 0 then [m.second, m.micro] else if m.second != 0 then [m.second] else []
  let parts :=
    ([m.day.year, m.day.month, m.day.day, m.hour, m.minute] ++ late).map Text.ofNat
  "datetime.datetime(".toList ++
    Text.join ", ".toList
      (parts ++ (m.offset.map fun o => "tzinfo=".toList ++ zoneWritten o).toList) ++ [')']

end Moment

namespace Value

section Defs

/-- What stands for a collection inside itself. -/
def dots : Value → Text
  | object _ => "\x7b...\x7d".toList
  | pair .. => "(...)".toList
  | set _ => "set(...)".toList
  | _ => "[...]".toList

mutual

/-- A value as it is written inside a collection; `opened` holds the marks of the collections around
it. -/
def written (opened : List (Nat × Nat)) : Value → Text
  | null => "None".toList
  | bool true => "True".toList
  | bool false => "False".toList
  | int n => Text.ofInt n
  | double x => x.shown
  | str t => Quoted.write t
  | bytes b => Quoted.writeBytes b
  | day d => d.written
  | moment m => m.written
  | list items => '[' :: writtenItems opened items ++ [']']
  | pair a b => '(' :: written opened a ++ ", ".toList ++ written opened b ++ [')']
  | set [] => "set()".toList
  | set (v :: vs) => '\x7b' :: writtenItems opened (v :: vs) ++ ['\x7d']
  | object entries => '\x7b' :: writtenEntries opened entries ++ ['\x7d']
  | shared mark v => if opened.contains mark then v.dots else written (mark :: opened) v

/-- The items of a list with commas between them. -/
def writtenItems (opened : List (Nat × Nat)) : List Value → Text
  | [] => []
  | [v] => written opened v
  | v :: vs => written opened v ++ ", ".toList ++ writtenItems opened vs

/-- The entries of an object with commas between them. -/
def writtenEntries (opened : List (Nat × Nat)) : List (Value × Value) → Text
  | [] => []
  | [(k, v)] => written opened k ++ ": ".toList ++ written opened v
  | (k, v) :: es =>
    written opened k ++ ": ".toList ++ written opened v ++ ", ".toList ++ writtenEntries opened es

end

/-- A value as a name: a text as it is, a day or a moment in its plain form, and anything else as
inside a collection. -/
def shown : Value → Text
  | str t => t
  | day d => d.shown
  | moment m => m.shown
  | v => v.written []

mutual

/-- Whether a value can be shown: no integer in it has too many digits.  `opened` holds the marks of
the collections around it. -/
def isShowable (opened : List (Nat × Nat)) : Value → Bool
  | int n => n.natAbs < Nat.pow 10 Payload.maxDigits
  | list items | set items => allShowable opened items
  | pair a b => a.isShowable opened && b.isShowable opened
  | object entries => entriesShowable opened entries
  | shared mark v => opened.contains mark || v.isShowable (mark :: opened)
  | _ => true

/-- Whether all values of a list can be shown. -/
def allShowable (opened : List (Nat × Nat)) : List Value → Bool
  | [] => true
  | v :: vs => v.isShowable opened && allShowable opened vs

/-- Whether all keys and values of entries can be shown. -/
def entriesShowable (opened : List (Nat × Nat)) : List (Value × Value) → Bool
  | [] => true
  | (k, v) :: es =>
    k.isShowable opened && v.isShowable opened && entriesShowable opened es

end

end Defs

end Value

end ApiAtlas
