import ApiAtlas.Text.Basic

/-!
# Tables with commas

**Definitions.** A row is written with commas between its fields.  A field with a comma, a quote or
a line break inside stands in quotes, with its own quotes doubled.
-/

namespace ApiAtlas

namespace Csv

section Defs

/-- Whether a character forces quotes. -/
def isSpecial (c : Char) : Bool :=
  c == ',' || c == '"' || c == '\r' || c == '\n'

/-- A field as it is written. -/
def field (t : Text) : Text :=
  if t.any isSpecial then '"' :: Text.replaceChar '"' ['"', '"'] t ++ ['"'] else t

/-- A row as it is written. -/
def row (fields : List Text) : Text :=
  Text.join [','] (fields.map field) ++ ['\r', '\n']

/-- A table with a heading row. -/
def table (heading : List Text) (rows : List (List Text)) : Text :=
  (heading :: rows).flatMap row

end Defs

end Csv

end ApiAtlas
